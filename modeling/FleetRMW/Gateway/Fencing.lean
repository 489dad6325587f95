import FleetRMW.Gateway.Store

/-! # Fenced writers

Any number of connections work on one database, each with a holder id of its own and with
whatever clock it has. What has been granted is kept as a log of the successful acquires.
Two entries of it are the same or the later one has the greater token; a connection that
still remembers a lease remembers an entry of the log; so once another holder's entry
stands behind it, its token is below that of the row and no write of it passes the fence.
-/

namespace FleetRMW.Gateway

open Lib

variable {Doc Conn : Type}

/-- A call of `append_frame`, `set_cursor` or `commit_application_outcome`. -/
inductive Write (Doc : Type) where
  | appendFrame (metadata : FrameMetadata) (offset : Int) (payload : Bytes)
      (evictOffset : Option Int) (dedupCapacityPerTopic : Int)
      (admissionState : Option (AdmissionRow Doc)) (nowUnixMs : Option Int)
  | setCursor (stream : StreamKey) (consumerId : Str) (nextOffset : Int)
      (nowUnixMs : Option Int)
  | commitApplicationOutcome (outcome : KeyRow) (capacityPerTopic : Int)
      (admissionState : AdmissionRow Doc) (nowUnixMs : Option Int)

def Write.exec (db : Database Doc) (lease : Option HeldLease) :
    Write Doc → Except StoreError (Database Doc)
  | appendFrame metadata offset payload evict capacity state now =>
      db.appendFrame lease metadata offset payload evict capacity state now
  | setCursor stream consumerId nextOffset now =>
      db.setCursor lease stream consumerId nextOffset now
  | commitApplicationOutcome outcome capacity state now =>
      (db.commitApplicationOutcome lease outcome capacity state now).map Prod.fst

/-- A method called on a connection. -/
inductive StoreCall (Doc : Type) where
  | acquireWriterLease (leaseMs nowUnixMs : Int)
  | renewWriterLease (nowUnixMs : Int)
  | releaseWriterLease (nowUnixMs : Int)
  | write (w : Write Doc)

/-- A call, and whether SQLite carries its transaction through. -/
structure StoreEvent (Doc Conn : Type) where
  conn : Conn
  call : StoreCall Doc
  commits : Bool

/-- `lease c` is what connection `c` remembers, and `acquired` lists the connections whose
    acquires returned, in that order, with the returned tokens. -/
structure SharedStore (Doc Conn : Type) where
  db : Database Doc
  lease : Conn → Option HeldLease
  acquired : List (Conn × Int)

namespace SharedStore

def init (db : Database Doc) : SharedStore Doc Conn := ⟨db, fun _ => none, []⟩

variable [DecidableEq Conn]

/-- One call. The release forgets the lease even when it raises. -/
def step (holder : Conn → Str) (s : SharedStore Doc Conn) (e : StoreEvent Doc Conn) :
    SharedStore Doc Conn :=
  let c := e.conn
  match e.call with
  | .acquireWriterLease leaseMs now =>
      match transaction e.commits (s.db.acquireWriterLease (holder c) leaseMs now) with
      | .ok (db, held) =>
          { db, lease := Function.update s.lease c (some held),
            acquired := s.acquired ++ [(c, held.fenceToken)] }
      | .error _ => s
  | .renewWriterLease now =>
      match transaction e.commits (s.db.renewWriterLease (s.lease c) now) with
      | .ok (db, _) => { s with db }
      | .error _ => s
  | .releaseWriterLease now =>
      match transaction e.commits (s.db.releaseWriterLease (s.lease c) now) with
      | .ok db => { s with db, lease := Function.update s.lease c none }
      | .error _ => { s with lease := Function.update s.lease c none }
  | .write w =>
      match transaction e.commits (w.exec s.db (s.lease c)) with
      | .ok db => { s with db }
      | .error _ => s

def runs (holder : Conn → Str) (db : Database Doc) (events : List (StoreEvent Doc Conn)) :
    SharedStore Doc Conn :=
  events.foldl (step holder) (init db)

end SharedStore

/-! ## What one call does to the lease -/

/-- Any write looks at the fence first and leaves the lease row alone. -/
theorem Write.exec_eq_ok {db db' : Database Doc} {lease : Option HeldLease} {w : Write Doc}
    (h : w.exec db lease = .ok db') :
    (∃ now, db.verifyWriterLease lease now = .ok ()) ∧ db'.writerLease = db.writerLease := by
  cases w with
  | appendFrame =>
      obtain ⟨verified, same⟩ := Database.appendFrame_eq_ok h
      exact ⟨⟨_, verified⟩, same⟩
  | setCursor =>
      obtain ⟨verified, rfl⟩ := Database.setCursor_eq_ok h
      exact ⟨⟨_, verified⟩, rfl⟩
  | commitApplicationOutcome outcome capacity state now =>
      simp only [exec] at h
      cases answer : db.commitApplicationOutcome lease outcome capacity state now with
      | error e => rw [answer] at h; cases h
      | ok r =>
          rw [answer] at h
          obtain ⟨verified, same⟩ := Database.commitApplicationOutcome_eq_ok answer
          cases h
          exact ⟨⟨_, verified⟩, same⟩

/-- The row that was there keeps its holder and token. -/
def SameHolder (old new : Option LeaseRow) : Prop :=
  ∀ row, old = some row →
    ∃ row', new = some row' ∧ row'.holderId = row.holderId ∧ row'.fenceToken = row.fenceToken

theorem SameHolder.refl (lease : Option LeaseRow) : SameHolder lease lease :=
  fun row stored => ⟨row, stored, rfl, rfl⟩

theorem SameHolder.of_map {old : Option LeaseRow} (expires : LeaseRow → Int) :
    SameHolder old (old.map fun row => { row with expiresUnixMs := expires row }) := by
  intro row stored
  exact ⟨{ row with expiresUnixMs := expires row }, by rw [stored]; rfl, rfl, rfl⟩

namespace SharedStore

variable [DecidableEq Conn] {holder : Conn → Str} {s : SharedStore Doc Conn}
  {e : StoreEvent Doc Conn}

/-- A call is a successful acquire, or it neither moves the token nor grants a lease. -/
theorem step_cases (holder : Conn → Str) (s : SharedStore Doc Conn) (e : StoreEvent Doc Conn) :
    (∃ leaseMs now db held,
      s.db.acquireWriterLease (holder e.conn) leaseMs now = .ok (db, held) ∧
      s.step holder e = ⟨db, Function.update s.lease e.conn (some held),
        s.acquired ++ [(e.conn, held.fenceToken)]⟩) ∨
    (SameHolder s.db.writerLease (s.step holder e).db.writerLease ∧
      (s.step holder e).acquired = s.acquired ∧
      ∀ c held, (s.step holder e).lease c = some held → s.lease c = some held) := by
  obtain ⟨c, call, commits⟩ := e
  cases call with
  | acquireWriterLease leaseMs now =>
      simp only [step]
      split
      case h_1 db held answer =>
        exact .inl ⟨leaseMs, now, db, held, transaction_eq_ok answer, rfl⟩
      case h_2 => exact .inr ⟨.refl _, rfl, fun _ _ h => h⟩
  | renewWriterLease now =>
      simp only [step]
      split
      case h_1 answer =>
        rw [Database.renewWriterLease_eq_ok (transaction_eq_ok answer)]
        exact .inr ⟨.of_map _, rfl, fun _ _ h => h⟩
      case h_2 => exact .inr ⟨.refl _, rfl, fun _ _ h => h⟩
  | releaseWriterLease now =>
      have forgets : ∀ c' held, Function.update s.lease c none c' = some held →
          s.lease c' = some held := by
        intro c' held h
        rcases eq_or_ne c' c with rfl | other
        · simp only [Function.update_self, reduceCtorEq] at h
        · rwa [Function.update_of_ne other] at h
      simp only [step]
      split
      case h_1 answer =>
        obtain ⟨expires, rfl⟩ := Database.releaseWriterLease_eq_ok (transaction_eq_ok answer)
        exact .inr ⟨.of_map expires, rfl, forgets⟩
      case h_2 => exact .inr ⟨.refl _, rfl, forgets⟩
  | write w =>
      simp only [step]
      split
      case h_1 db answer =>
        refine .inr ⟨?_, rfl, fun _ _ h => h⟩
        rw [(Write.exec_eq_ok (transaction_eq_ok answer)).2]
        exact .refl _
      case h_2 => exact .inr ⟨.refl _, rfl, fun _ _ h => h⟩

/-! ## The invariant -/

/-- A later grant is the same one again, or has a greater token. -/
def Supersedes (old new : Conn × Int) : Prop := old = new ∨ old.2 < new.2

theorem Supersedes.trans {x y z : Conn × Int} (hxy : Supersedes x y) (hyz : Supersedes y z) :
    Supersedes x z := by
  rcases hxy with rfl | hxy
  · exact hyz
  rcases hyz with rfl | hyz
  · exact .inr hxy
  · exact .inr (hxy.trans hyz)

/-- What the calls preserve: the row is that of the last grant, and what a connection
    remembers was granted to it. -/
structure Fenced (holder : Conn → Str) (s : SharedStore Doc Conn) : Prop where
  log : s.acquired.Pairwise Supersedes
  last : ∀ grant, s.acquired.getLast? = some grant → ∃ row, s.db.writerLease = some row ∧
    row.holderId = holder grant.1 ∧ row.fenceToken = grant.2
  remembered : ∀ c held, s.lease c = some held → (c, held.fenceToken) ∈ s.acquired

namespace Fenced

theorem init (db : Database Doc) : Fenced holder (SharedStore.init db) where
  log := .nil
  last := nofun
  remembered := nofun

theorem exists_last {grant : Conn × Int} {log : List (Conn × Int)} (granted : grant ∈ log) :
    ∃ last, log.getLast? = some last :=
  ⟨_, List.getLast?_eq_some_getLast (List.ne_nil_of_mem granted)⟩

/-- Every grant so far is superseded by the last one. -/
theorem supersedes_last (I : Fenced holder s) {grant last : Conn × Int}
    (granted : grant ∈ s.acquired) (latest : s.acquired.getLast? = some last) :
    Supersedes grant last := by
  obtain ⟨before, split⟩ := List.getLast?_eq_some_iff.mp latest
  have log := I.log
  rw [split] at granted log
  rcases List.mem_append.mp granted with earlier | same
  · exact (List.pairwise_append.mp log).2.2 grant earlier last (List.mem_singleton_self _)
  · exact .inl (List.mem_singleton.mp same)

/-- Grants of one token were made to one connection. -/
theorem same_holder (I : Fenced holder s) {x y : Conn × Int} (hx : x ∈ s.acquired)
    (hy : y ∈ s.acquired) (same : x.2 = y.2) : x.1 = y.1 := by
  have log : s.acquired.Pairwise fun x y => x.2 = y.2 → x.1 = y.1 := I.log.imp <| by
    rintro x y (rfl | raised) equal
    · rfl
    · exact absurd equal raised.ne
  refine List.Pairwise.forall_of_forall_of_flip (fun _ _ _ => rfl) log ?_ hx hy same
  exact log.imp fun h equal => (h equal.symm).symm

/-- A new grant supersedes the last one: the same token goes to the same holder only. -/
theorem supersedes_new (I : Fenced holder s) (distinct : Function.Injective holder)
    {db : Database Doc} {c : Conn} {leaseMs now : Int} {held : HeldLease}
    (answer : s.db.acquireWriterLease (holder c) leaseMs now = .ok (db, held))
    {grant : Conn × Int} (granted : grant ∈ s.acquired) :
    Supersedes grant (c, held.fenceToken) := by
  obtain ⟨last, latest⟩ := exists_last granted
  obtain ⟨row, stored, heldBy, token⟩ := I.last last latest
  apply (I.supersedes_last granted latest).trans
  rcases (Database.acquireWriterLease_eq_ok answer).2.2 row stored with ⟨mine, same⟩ | raised
  · have conn : last.1 = c := distinct (heldBy.symm.trans mine)
    exact .inl (Prod.ext conn (by rw [same, token]))
  · exact .inr (by rw [raised, token]; exact lt_add_one _)

theorem step (I : Fenced holder s) (distinct : Function.Injective holder)
    (e : StoreEvent Doc Conn) : Fenced holder (s.step holder e) := by
  rcases step_cases holder s e with ⟨leaseMs, now, db, held, answer, after⟩ | ⟨same, log, leases⟩
  · rw [after]
    obtain ⟨_, rfl, _⟩ := Database.acquireWriterLease_eq_ok answer
    constructor
    · refine List.pairwise_append.mpr ⟨I.log, List.pairwise_singleton _ _, ?_⟩
      intro grant granted new isNew
      obtain rfl := List.mem_singleton.mp isNew
      exact I.supersedes_new distinct answer granted
    · intro grant latest
      simp only [List.getLast?_append, List.getLast?_singleton, Option.some_or,
        Option.some.injEq] at latest
      subst latest
      exact ⟨_, rfl, rfl, rfl⟩
    · intro c remembered h
      rcases eq_or_ne c e.conn with rfl | other
      · obtain rfl : held = remembered := by
          simpa only [Function.update_self, Option.some.injEq] using h
        exact List.mem_append_right _ (List.mem_singleton_self _)
      · simp only [Function.update_of_ne other] at h
        exact List.mem_append_left _ (I.remembered c remembered h)
  · constructor
    · rw [log]
      exact I.log
    · intro grant latest
      rw [log] at latest
      obtain ⟨row, stored, heldBy, token⟩ := I.last grant latest
      obtain ⟨row', stored', heldBy', token'⟩ := same row stored
      exact ⟨row', stored', heldBy'.trans heldBy, token'.trans token⟩
    · intro c held h
      rw [log]
      exact I.remembered c held (leases c held h)

theorem runs (distinct : Function.Injective holder) (db : Database Doc)
    (events : List (StoreEvent Doc Conn)) : Fenced holder (SharedStore.runs holder db events) := by
  suffices ∀ s : SharedStore Doc Conn, Fenced holder s →
      Fenced holder (events.foldl (SharedStore.step holder) s) from this _ (.init db)
  induction events with
  | nil => exact fun s I => I
  | cons e es ih => exact fun s I => ih _ (I.step distinct e)

/-- The fence lets a connection through only while the last grant is its own. -/
theorem last_of_verified (I : Fenced holder s) {c : Conn} {held : HeldLease} {now : Option Int}
    (remembers : s.lease c = some held)
    (verified : s.db.verifyWriterLease (s.lease c) now = .ok ()) :
    s.acquired.getLast? = some (c, held.fenceToken) := by
  have granted := I.remembered c held remembers
  obtain ⟨last, latest⟩ := exists_last granted
  obtain ⟨row, stored, _, token⟩ := I.last last latest
  rw [remembers] at verified
  cases now with
  | none => cases verified
  | some now =>
      simp only [Database.verifyWriterLease] at verified
      split at verified
      case isFalse => cases verified
      case isTrue holds =>
        obtain ⟨row', stored', _, token', _⟩ := Database.holdsLease_iff.mp holds
        obtain rfl : row = row' := Option.some.inj (stored.symm.trans stored')
        rcases I.supersedes_last granted latest with same | raised
        · rw [latest, same]
        · exact absurd (token'.symm.trans token) raised.ne

end Fenced

/-- The token of the row never decreases. -/
theorem step_fenceToken_le (holder : Conn → Str) (e : StoreEvent Doc Conn) {row : LeaseRow}
    (stored : s.db.writerLease = some row) :
    ∃ row', (s.step holder e).db.writerLease = some row' ∧ row.fenceToken ≤ row'.fenceToken := by
  rcases step_cases holder s e with ⟨leaseMs, now, db, held, answer, after⟩ | ⟨same, _⟩
  · obtain ⟨_, rfl, token⟩ := Database.acquireWriterLease_eq_ok answer
    rw [after]
    refine ⟨_, rfl, ?_⟩
    rcases token row stored with ⟨_, same⟩ | raised
    · exact same.ge
    · exact raised ▸ (lt_add_one _).le
  · obtain ⟨row', stored', _, token⟩ := same row stored
    exact ⟨row', stored', token.ge⟩

theorem foldl_fenceToken_le (events : List (StoreEvent Doc Conn)) {row : LeaseRow}
    (stored : s.db.writerLease = some row) :
    ∃ row', (events.foldl (step holder) s).db.writerLease = some row' ∧
      row.fenceToken ≤ row'.fenceToken := by
  induction events generalizing s row with
  | nil => exact ⟨row, stored, le_rfl⟩
  | cons e es ih =>
      obtain ⟨mid, stored', rises⟩ := step_fenceToken_le holder e stored
      obtain ⟨row', stored'', rises'⟩ := ih stored'
      exact ⟨row', stored'', rises.trans rises'⟩

/-- Writer fencing, after any calls on any connections with distinct holder ids. -/
theorem writers_fenced (distinct : Function.Injective holder) (db : Database Doc)
    (before after : List (StoreEvent Doc Conn)) :
    (∀ row, (runs holder db before).db.writerLease = some row →
      ∃ row', (runs holder db (before ++ after)).db.writerLease = some row' ∧
        row.fenceToken ≤ row'.fenceToken) ∧
    (∀ a b token, (a, token) ∈ (runs holder db before).acquired →
      (b, token) ∈ (runs holder db before).acquired → a = b) ∧
    ∀ a b token earlier later,
      (runs holder db before).acquired = earlier ++ (b, token) :: later → b ≠ a →
      (∀ grant ∈ later, grant.1 ≠ a) → (runs holder db before).lease a ≠ none →
      ∀ w : Write Doc, ∃ e,
        w.exec (runs holder db before).db ((runs holder db before).lease a) = .error e := by
  have I := Fenced.runs distinct db before
  refine ⟨?_, ?_, ?_⟩
  · intro row stored
    rw [runs, List.foldl_append]
    exact foldl_fenceToken_le after stored
  · intro a b token ha hb
    exact I.same_holder ha hb rfl
  · intro a b token earlier later log other notLater remembers w
    obtain ⟨held, remembers⟩ := Option.ne_none_iff_exists'.mp remembers
    cases answer : w.exec (runs holder db before).db ((runs holder db before).lease a) with
    | error e => exact ⟨e, rfl⟩
    | ok db' =>
        obtain ⟨now, verified⟩ := (Write.exec_eq_ok answer).1
        have latest := I.last_of_verified remembers verified
        rw [log, List.getLast?_append_of_ne_nil _ (List.cons_ne_nil _ _)] at latest
        rcases List.mem_cons.mp (List.mem_of_getLast? latest) with same | isLater
        · exact absurd (congrArg Prod.fst same).symm other
        · exact absurd rfl (notLater _ isLater)

/-- Writer 1 lets its lease run out and is overtaken by writer 2; a clock that has gone
    back does not help it. -/
theorem writers_fenced_twoWriters :
    let takeover : List (StoreEvent Unit Nat) :=
      [⟨1, .acquireWriterLease 10 0, true⟩, ⟨2, .acquireWriterLease 10 20, true⟩]
    let s := runs (fun c => [c]) {} takeover
    s.acquired = [(1, 1), (2, 2)] ∧ s.lease 1 ≠ none ∧
      ∃ e, (Write.setCursor (1, lit "/t") (lit "c") 1 (some 5)).exec s.db (s.lease 1) = .error e :=
  ⟨by decide, by decide,
    (writers_fenced (List.singleton_injective (α := Nat)) {} _ []).2.2
      1 2 2 [(1, 1)] [] (by decide) (by decide) (by simp) (by decide) _⟩

end SharedStore

end FleetRMW.Gateway
