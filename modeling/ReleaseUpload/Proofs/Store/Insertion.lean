import ReleaseUpload.Proofs.Store.Indexes

/-!
Taking a session in and out again. An insertion is granted exactly if token and identifier are free,
and then adds one entry to each index; if it is refused it leaves nothing behind. A removal takes
both entries out again, whatever has happened to the session in between.
-/

namespace ReleaseUpload.Store

theorem lookup_append_of_free {Key Value : Type} [DecidableEq Key] {entries : List (Key × Value)}
    {key : Key} (free : entries.lookup key = none) (value : Value) (asked : Key) :
    (entries ++ [(key, value)]).lookup asked =
      if asked = key then some value else entries.lookup asked := by
  rw [List.lookup_append]
  by_cases same : asked = key
  · rw [same, free, Option.none_or, List.lookup_cons_self, if_pos rfl]
  · rw [List.lookup_cons, beq_false_of_ne same, List.lookup_nil, Option.or_none, if_neg same]

theorem filter_append_of_forall {Entry : Type} {kept : Entry → Bool} {entries : List Entry}
    {added : Entry} (all : ∀ entry ∈ entries, kept entry = true) (dropped : kept added = false) :
    (entries ++ [added]).filter kept = entries := by
  rw [List.filter_append, List.filter_eq_self.mpr all, List.filter_cons_of_neg (by simp [dropped]),
    List.filter_nil, List.append_nil]

theorem insert_run_eq_ok_iff {store after : Store} {session : UploadSession} {handle : Handle} :
    (insert session).run store = .ok handle after ↔
      (store.tokens.lookup session.token = none ∧ store.get? session.id = none) ∧
        handle = store.records.length ∧ after = store.inserted session := by
  rw [insert_run, ← Option.not_isSome_iff_eq_none, ← Option.not_isSome_iff_eq_none]
  split_ifs with taken held
  · simp [taken]
  · simp [held]
  · simp [taken, held, eq_comm]

theorem remove_run_of_found {store : Store} {id : SessionId} {handle : Handle}
    (found : store.get? id = some handle) :
    (remove id).run store = .ok () (store.drop (id, handle)) := by
  rw [remove_run, found]

theorem remove_run_of_free {store : Store} {id : SessionId} (free : store.get? id = none) :
    (remove id).run store = .error (.notFound (sessionName id)) store := by
  rw [remove_run, free]

theorem get?_congr {store later : Store} (same : later.sessions = store.sessions) (id : SessionId) :
    later.get? id = store.get? id := by
  rw [get?, same, ← get?]

theorem get?_inserted {store : Store} {session : UploadSession}
    (fresh : store.get? session.id = none) (id : SessionId) :
    (store.inserted session).get? id =
      if id = session.id then some store.records.length else store.get? id :=
  lookup_append_of_free fresh store.records.length id

namespace Consistent

variable {store : Store} (consistent : Consistent store)
include consistent

theorem exists_get?_of_lookup {token : Token} {id : SessionId}
    (named : store.tokens.lookup token = some id) : ∃ handle, store.get? id = some handle := by
  obtain ⟨handle, session, stored, -⟩ := consistent.lookup_tokens_iff.mp named
  exact ⟨handle, stored.found⟩

theorem find?_eq_none_iff {token : Token} :
    store.find? token = none ↔ store.tokens.lookup token = none := by
  rw [find?]
  cases named : store.tokens.lookup token with
  | none => simp
  | some id =>
    obtain ⟨handle, found⟩ := consistent.exists_get?_of_lookup named
    simp [found]

theorem find?_inserted {session : UploadSession}
    (free : store.tokens.lookup session.token = none) (fresh : store.get? session.id = none)
    (token : Token) :
    (store.inserted session).find? token =
      if token = session.token then some store.records.length else store.find? token := by
  have named : (store.inserted session).tokens.lookup token =
      if token = session.token then some session.id else store.tokens.lookup token :=
    lookup_append_of_free free session.id token
  rw [find?, named, find?]
  split_ifs with same
  · rw [Option.bind_some, get?_inserted fresh, if_pos rfl]
  · cases taken : store.tokens.lookup token with
    | none => rfl
    | some id =>
      obtain ⟨handle, found⟩ := consistent.exists_get?_of_lookup taken
      have apart : id ≠ session.id := by
        rintro rfl
        cases fresh.symm.trans found
      rw [Option.bind_some, Option.bind_some, get?_inserted fresh, if_neg apart]

/-- Taking out the identifier of the session that came in last leaves the indexes of before. -/
theorem without_inserted {session : UploadSession} (fresh : store.get? session.id = none) :
    ((store.inserted session).without [session.id]).sessions = store.sessions ∧
      ((store.inserted session).without [session.id]).tokens = store.tokens := by
  have unlisted : ∀ handle, (session.id, handle) ∉ store.sessions := by
    intro handle listed
    cases fresh.symm.trans (consistent.get?_eq_some_iff.mpr listed)
  constructor
  · apply filter_append_of_forall
    · rintro ⟨id, handle⟩ listed
      have apart : id ≠ session.id := by
        rintro rfl
        exact unlisted handle listed
      simpa using apart
    · simp
  · apply filter_append_of_forall
    · rintro ⟨token, id⟩ listed
      have apart : id ≠ session.id := by
        rintro rfl
        obtain ⟨handle, found, -⟩ := (consistent.mem_tokens_iff token session.id).mp listed
        exact unlisted handle found
      simpa using apart
    · simp

end Consistent

/-- Steps of sessions leave the indexes alone. -/
theorem indexes_after_on (store : Store) (handle : Handle) (steps : List UploadSession.Step) :
    (store.after (steps.map (.on handle))).sessions = store.sessions ∧
      (store.after (steps.map (.on handle))).tokens = store.tokens := by
  induction steps generalizing store with
  | nil => exact ⟨rfl, rfl⟩
  | cons step rest inductionHypothesis => exact inductionHypothesis (store.touch handle step)

/-- What a store gains by a session that it takes in. -/
structure Added (store : Store) (session : UploadSession) (handle : Handle) (after : Store) :
    Prop where
  fresh : store.record? handle = none
  record : after.record? handle = some session.seeToken
  kept : ∀ older record, store.record? older = some record → after.record? older = some record
  sessions : after.sessions = store.sessions ++ [(session.id, handle)]
  tokens : after.tokens = store.tokens ++ [(session.token, session.id)]
  get?_eq : ∀ id, after.get? id = if id = session.id then some handle else store.get? id
  find?_eq : ∀ token,
    after.find? token = if token = session.token then some handle else store.find? token

/-- What is left once the session has been taken out again. -/
structure Restored (store : Store) (session : UploadSession) (left : Store) : Prop where
  sessions : left.sessions = store.sessions
  tokens : left.tokens = store.tokens
  /-- Token and identifier of the session are free for others. -/
  again : ∀ other : UploadSession,
    other.token = session.token ∨ store.find? other.token = none →
    other.id = session.id ∨ store.get? other.id = none →
    ∃ handle after, (insert other).run left = .ok handle after

/-- When a session can be taken in and taken out, and what comes of it. -/
structure Insertion (store : Store) (session : UploadSession) : Prop where
  granted_iff : (∃ handle after, (insert session).run store = .ok handle after) ↔
    store.find? session.token = none ∧ store.get? session.id = none
  token_taken : store.find? session.token ≠ none →
    (insert session).run store = .error
      (.alreadyExists ("upload session for " ++ session.project ++ "==" ++ session.version)) store
  id_taken : store.find? session.token = none → store.get? session.id ≠ none →
    (insert session).run store =
      .error (.alreadyExists ("upload session " ++ session.id.toString)) store
  added : ∀ handle after, (insert session).run store = .ok handle after →
    Added store session handle after
  removed_iff : ∀ id, (∃ after, (remove id).run store = .ok () after) ↔ store.get? id ≠ none
  not_found : ∀ id, store.get? id = none →
    (remove id).run store = .error (.notFound ("upload session " ++ id.toString)) store
  /-- The removal goes by the identifier that the session came in with. -/
  undone : ∀ handle after, (insert session).run store = .ok handle after →
    ∀ steps : List UploadSession.Step, ∃ left,
      (remove session.id).run (after.after (steps.map (.on handle))) = .ok () left ∧
      Restored store session left

namespace Consistent

variable {store : Store} (consistent : Consistent store) {session : UploadSession}
include consistent

theorem insert_granted_iff :
    (∃ handle after, (insert session).run store = .ok handle after) ↔
      store.find? session.token = none ∧ store.get? session.id = none := by
  rw [consistent.find?_eq_none_iff]
  simp [insert_run_eq_ok_iff]

section

variable (free : store.tokens.lookup session.token = none) (fresh : store.get? session.id = none)
include free fresh

theorem added : Added store session store.records.length (store.inserted session) where
  fresh := List.getElem?_eq_none (Nat.le_refl _)
  record := by rw [record?_inserted, if_pos rfl]
  kept older record held := by
    rw [record?_inserted, if_neg (Nat.ne_of_lt (List.getElem?_eq_some_iff.mp held).1), held]
  sessions := rfl
  tokens := rfl
  get?_eq := get?_inserted fresh
  find?_eq := consistent.find?_inserted free fresh

theorem restored {left : Store} (still : Consistent left) (sessions : left.sessions = store.sessions)
    (tokens : left.tokens = store.tokens) : Restored store session left where
  sessions := sessions
  tokens := tokens
  again other token id := by
    have find?_eq : left.find? other.token = store.find? other.token := by
      rw [find?, tokens, funext (get?_congr sessions), ← find?]
    rw [still.insert_granted_iff, find?_eq, get?_congr sessions]
    constructor
    · rcases token with same | free
      · rw [same, consistent.find?_eq_none_iff, free]
      · exact free
    · rcases id with same | fresh
      · rw [same, fresh]
      · exact fresh

theorem remove_inserted_run (steps : List UploadSession.Step) :
    ∃ left, (remove session.id).run
        ((store.inserted session).after (steps.map (.on store.records.length))) = .ok () left ∧
      Restored store session left := by
  let later := (store.inserted session).after (steps.map (.on store.records.length))
  have still : Consistent later := (consistent.inserted free fresh).after _
  obtain ⟨sessions, tokens⟩ := indexes_after_on (store.inserted session) store.records.length steps
  have found : later.get? session.id = some store.records.length := by
    rw [get?_congr sessions, get?_inserted fresh, if_pos rfl]
  have removed : (remove session.id).run later = .ok () (later.without [session.id]) := by
    rw [remove_run_of_found found, still.drop_eq (still.get?_eq_some_iff.mp found)]
  -- The indexes are those of the insertion, whatever the session has become meanwhile.
  obtain ⟨sessionsLeft, tokensLeft⟩ := consistent.without_inserted fresh
  refine ⟨_, removed, consistent.restored free fresh (still.without _) ?_ ?_⟩
  · rw [← sessionsLeft, Store.without, sessions, Store.without]
  · rw [← tokensLeft, Store.without, tokens, Store.without]

end

end Consistent

/-- Insertions are all or nothing, and a removal undoes the insertion of its session. -/
theorem insertion_of_reachable {store : Store} (reachable : Reachable store)
    (session : UploadSession) : Insertion store session := by
  have consistent := reachable.consistent
  constructor
  case granted_iff => exact consistent.insert_granted_iff
  case token_taken =>
    intro taken
    rw [ne_eq, consistent.find?_eq_none_iff, ← ne_eq, ← Option.isSome_iff_ne_none] at taken
    rw [insert_run, if_pos taken]
    rfl
  case id_taken =>
    intro free taken
    rw [consistent.find?_eq_none_iff] at free
    rw [insert_run, free, if_neg (by simp), if_pos (Option.isSome_iff_ne_none.mpr taken)]
    rfl
  case added =>
    intro handle after run
    obtain ⟨⟨free, fresh⟩, rfl, rfl⟩ := insert_run_eq_ok_iff.mp run
    exact consistent.added free fresh
  case removed_iff =>
    intro id
    cases found : store.get? id with
    | none => simp [remove_run_of_free found]
    | some handle => simp [remove_run_of_found found]
  case not_found => exact fun id free => remove_run_of_free free
  case undone =>
    intro handle after run steps
    obtain ⟨⟨free, fresh⟩, rfl, rfl⟩ := insert_run_eq_ok_iff.mp run
    exact consistent.remove_inserted_run free fresh steps

/-- The owner of a stored session gives it another identifier and another nonce. -/
def renamedStay : List UploadSession.Step :=
  [.write (.id ⟨3#128⟩), .write (.nonce "other")]

/-- A session whose token and identifier are both taken is refused for its token. Another one comes
in, is renamed, and goes again. -/
theorem renamedStay_insertion :
    let store := empty.after [.insert (shownSession ⟨1#128⟩ "first")]
    let session := shownSession ⟨2#128⟩ "second"
    Reachable store ∧
      (insert (shownSession ⟨1#128⟩ "first")).run store =
        .error (.alreadyExists "upload session for demo==1.0") store ∧
      ∃ handle after left, (insert session).run store = .ok handle after ∧
        Added store session handle after ∧
        (remove session.id).run (after.after (renamedStay.map (.on handle))) = .ok () left ∧
        Restored store session left := by
  intro store session
  have reachable : Reachable store := ⟨_, rfl⟩
  have taken := (insertion_of_reachable reachable (shownSession ⟨1#128⟩ "first")).token_taken
    (by decide +kernel)
  have insertion := insertion_of_reachable reachable session
  obtain ⟨handle, after, run⟩ := insertion.granted_iff.mpr (by decide +kernel)
  obtain ⟨left, removed, restored⟩ := insertion.undone handle after run renamedStay
  exact ⟨reachable, taken, handle, after, left, run, insertion.added handle after run, removed,
    restored⟩

end ReleaseUpload.Store
