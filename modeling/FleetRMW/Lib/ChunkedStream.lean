import FleetRMW.Lib.Except
import FleetRMW.Lib.Wire

/-! # Streams that split their reads

A stream gives its octets in chunks: a read answers with as much of the next chunk as was asked
for, and with nothing only at the end. The loop that reads a fixed number of octets does not see
the chunks, and a reader that is built from such loops takes a value off the octets of the stream
as it would off one text.
-/

namespace FleetRMW.Lib

/-- What a stream has still to give. -/
structure ChunkedStream where
  chunks : List Bytes
  nonempty : ∀ chunk ∈ chunks, chunk ≠ []

namespace ChunkedStream

/-- All octets that are left, whatever the chunks are. -/
def octets (s : ChunkedStream) : Bytes := s.chunks.flatten

def putBack (rest : Bytes) (s : ChunkedStream) : ChunkedStream :=
  if some_ : rest ≠ [] then ⟨rest :: s.chunks, List.forall_mem_cons.mpr ⟨some_, s.nonempty⟩⟩ else s

/-- `stream.read(n)` -/
def read (n : Nat) : ChunkedStream → Bytes × ChunkedStream
  | ⟨[], ended⟩ => ([], ⟨[], ended⟩)
  | ⟨chunk :: chunks, nonempty⟩ =>
      (chunk.take n, putBack (chunk.drop n) ⟨chunks, (List.forall_mem_cons.mp nonempty).2⟩)

variable {n : Nat} {s : ChunkedStream}

theorem putBack_octets (rest : Bytes) : (s.putBack rest).octets = rest ++ s.octets := by
  unfold putBack
  split
  case isTrue => rfl
  case isFalse none =>
    rw [not_not.mp none]
    rfl

theorem read_octets (n : Nat) (s : ChunkedStream) :
    (s.read n).1 ++ (s.read n).2.octets = s.octets := by
  cases s with
  | mk chunks nonempty =>
      cases chunks with
      | nil => rfl
      | cons chunk chunks =>
          rw [read, putBack_octets, ← List.append_assoc, List.take_append_drop]
          rfl

theorem read_length_le (n : Nat) (s : ChunkedStream) : (s.read n).1.length ≤ n := by
  cases s with
  | mk chunks nonempty =>
      cases chunks with
      | nil => exact Nat.zero_le n
      | cons chunk chunks => exact List.length_take_le n chunk

/-- Only the end of the stream answers with nothing. -/
theorem octets_of_read_eq_nil (asked : 0 < n) (nothing : (s.read n).1 = []) : s.octets = [] := by
  cases s with
  | mk chunks nonempty =>
      cases chunks with
      | nil => rfl
      | cons chunk chunks =>
          have filled : chunk ≠ [] := nonempty chunk List.mem_cons_self
          rcases List.take_eq_nil_iff.mp nothing with none | empty
          · omega
          · exact absurd empty filled

end ChunkedStream

/-- A reader of a stream, which may raise. -/
abbrev StreamReader (ε α : Type) := StateT ChunkedStream (Except ε) α

namespace StreamReader

open ChunkedStream

variable {ε α β : Type} {truncated : ε}

/-- Read on until there are `length` octets; `truncated` is what a stream that ends before raises. -/
def readMore (truncated : ε) (length : Nat) (chunks : Bytes) (s : ChunkedStream) :
    Except ε (Bytes × ChunkedStream) :=
  if _few : chunks.length < length then
    match s.read (length - chunks.length) with
    | (chunk, s) =>
        if _nothing : chunk = [] then .error truncated
        else readMore truncated length (chunks ++ chunk) s
  else .ok (chunks, s)
termination_by length - chunks.length
decreasing_by
  have filled := List.length_pos_iff.mpr _nothing
  have longer : chunks.length < (chunks ++ chunk).length := by
    rw [List.length_append]
    exact Nat.lt_add_of_pos_right filled
  exact Nat.sub_lt_sub_left _few longer

/-- `_read_exact` -/
def readExact (truncated : ε) (length : Nat) : StreamReader ε Bytes :=
  readMore truncated length []

theorem readMore_whole {length : Nat} {chunks bytes rest : Bytes} {s : ChunkedStream}
    (size : chunks.length + bytes.length = length) (left : s.octets = bytes ++ rest) :
    ∃ s', readMore truncated length chunks s = .ok (chunks ++ bytes, s') ∧ s'.octets = rest := by
  fun_induction readMore truncated length chunks s generalizing bytes with
  | case1 chunks s few s' given =>
      have ended := octets_of_read_eq_nil (Nat.sub_pos_of_lt few) (congrArg Prod.fst given)
      rw [ended] at left
      obtain ⟨none, -⟩ := List.nil_eq_append_iff.mp left
      rw [none, List.length_nil] at size
      omega
  | case2 chunks s few chunk s' given filled ih =>
      have all := read_octets (length - chunks.length) s
      have bound := read_length_le (length - chunks.length) s
      rw [given] at all bound
      dsimp only at all bound
      obtain ⟨more, rfl⟩ : chunk <+: bytes :=
        List.prefix_of_prefix_length_le ⟨_, all.trans left⟩ (List.prefix_append _ _) (by omega)
      rw [left, List.append_assoc] at all
      have size' : (chunks ++ chunk).length + more.length = length := by
        rw [List.length_append] at size ⊢
        omega
      obtain ⟨s₂, done, rest'⟩ := ih size' (List.append_cancel_left all)
      rw [List.append_assoc] at done
      exact ⟨s₂, done, rest'⟩
  | case3 chunks s enough =>
      have none : bytes = [] := List.length_eq_zero_iff.mp (by omega)
      subst none
      exact ⟨s, by rw [List.append_nil], left⟩

theorem readMore_cut {length : Nat} {chunks : Bytes} {s : ChunkedStream}
    (short : chunks.length + s.octets.length < length) :
    readMore truncated length chunks s = .error truncated := by
  fun_induction readMore truncated length chunks s with
  | case1 => rfl
  | case2 chunks s few chunk s' given filled ih =>
      have all := congrArg List.length (read_octets (length - chunks.length) s)
      rw [given, List.length_append] at all
      dsimp only at all
      apply ih
      rw [List.length_append]
      omega
  | case3 chunks s enough => omega

/-- The reader takes this encoding of the value off the front of a stream, however the stream is
    split, and raises `truncated` on a stream that ends within it. -/
structure Takes (truncated : ε) (r : StreamReader ε α) (bytes : Bytes) (a : α) : Prop where
  whole : ∀ (s : ChunkedStream) rest, s.octets = bytes ++ rest →
    ∃ s', r s = .ok (a, s') ∧ s'.octets = rest
  cut : ∀ s : ChunkedStream, s.octets <+: bytes → s.octets ≠ bytes → r s = .error truncated

variable {r : StreamReader ε α} {f : α → StreamReader ε β} {bytes bytes' : Bytes} {a : α} {b : β}

theorem Takes.pure (a : α) : Takes truncated (Pure.pure a) [] a where
  whole s _ left := ⟨s, rfl, left⟩
  cut _ pre other := absurd (List.prefix_nil.mp pre) other

theorem Takes.bind (first : Takes truncated r bytes a) (next : Takes truncated (f a) bytes' b) :
    Takes truncated (r >>= f) (bytes ++ bytes') b where
  whole s rest left := by
    rw [List.append_assoc] at left
    obtain ⟨s₁, done, left₁⟩ := first.whole s _ left
    obtain ⟨s₂, done₂, left₂⟩ := next.whole s₁ rest left₁
    refine ⟨s₂, ?_, left₂⟩
    change (r s >>= fun p => f p.1 p.2) = _
    rw [done]
    exact done₂
  cut s pre other := by
    change (r s >>= fun p => f p.1 p.2) = _
    obtain shorter | longer := lt_or_ge s.octets.length bytes.length
    · have inside : s.octets <+: bytes :=
        List.prefix_of_prefix_length_le pre (List.prefix_append _ _) shorter.le
      have strict : s.octets ≠ bytes := by
        intro same
        rw [same] at shorter
        exact absurd shorter (lt_irrefl _)
      rw [first.cut s inside strict]
      rfl
    · obtain ⟨tail, covers⟩ : bytes <+: s.octets :=
        List.prefix_of_prefix_length_le (List.prefix_append _ _) pre longer
      obtain ⟨s₁, done, left₁⟩ := first.whole s tail covers.symm
      rw [← covers] at pre other
      have inside : s₁.octets <+: bytes' := left₁ ▸ (List.prefix_append_right_inj bytes).mp pre
      have strict : s₁.octets ≠ bytes' := by
        rw [left₁]
        rintro rfl
        exact other rfl
      rw [done]
      exact next.cut s₁ inside strict

/-- What returns without the stream takes nothing. -/
theorem Takes.lift {γ : Type} {x : Except ε γ} {c : γ} (returned : x = .ok c)
    {f : γ → StreamReader ε α} (next : Takes truncated (f c) bytes a) :
    Takes truncated ((liftM x : StreamReader ε γ) >>= f) bytes a := by
  subst returned
  exact next

theorem Takes.exact {length : Nat} (size : bytes.length = length) :
    Takes truncated (readExact truncated length) bytes bytes where
  whole s _ left := readMore_whole ((Nat.zero_add _).trans size) left
  cut s pre other := by
    apply readMore_cut
    have fewer : s.octets.length < bytes.length :=
      lt_of_le_of_ne pre.length_le fun same => other (pre.eq_of_length same)
    rwa [List.length_nil, Nat.zero_add, ← size]

/-- Octets at the end of an encoding. -/
theorem Takes.last {length : Nat} (size : bytes.length = length) {f : Bytes → StreamReader ε α}
    (next : Takes truncated (f bytes) [] a) :
    Takes truncated (readExact truncated length >>= f) bytes a := by
  have all := (Takes.exact size).bind next
  rwa [List.append_nil] at all

end StreamReader

end FleetRMW.Lib
