import Mathlib.Tactic.SplitIfs
import ReleaseUpload.Proofs.UploadSession.Runs

/-!
Each operation of a store as a function of the store, and each step of a stored session as a change
of one record. Insertions, removals and evictions leave the records that are there as they are.
-/

namespace ReleaseUpload.Store

/-- A step of the session behind a handle. -/
def touch (store : Store) (handle : Handle) (step : UploadSession.Step) : Store :=
  { store with records := store.records.modify handle (·.apply step) }

/-- The store with a session taken in. -/
def inserted (store : Store) (session : UploadSession) : Store where
  records := store.records ++ [session.seeToken]
  sessions := store.sessions ++ [(session.id, store.records.length)]
  tokens := store.tokens ++ [(session.token, session.id)]

/-- The store with several sessions taken out. -/
def dropAll (store : Store) (entries : List Entry) : Store := entries.foldl drop store

theorem insert_run (store : Store) (session : UploadSession) :
    (insert session).run store =
      if (store.tokens.lookup session.token).isSome then
        .error (.alreadyExists (takenRelease session)) store
      else if (store.get? session.id).isSome then
        .error (.alreadyExists (sessionName session.id)) store
      else .ok store.records.length (store.inserted session) := by
  simp only [insert, EStateM.run_bind, EStateM.run_get]
  split_ifs <;> rfl

/-- A refused insertion leaves nothing behind. -/
theorem eq_of_insert_refused {store left : Store} {session : UploadSession} {refusal : StoreError}
    (refused : (insert session).run store = .error refusal left) : left = store := by
  rw [insert_run] at refused
  split_ifs at refused <;> cases refused <;> rfl

theorem remove_run (store : Store) (id : SessionId) :
    (remove id).run store =
      match store.get? id with
      | none => .error (.notFound (sessionName id)) store
      | some handle => .ok () (store.drop (id, handle)) := by
  simp only [remove, EStateM.run_bind, EStateM.run_get]
  cases store.get? id <;> rfl

theorem evictTerminal_run (store : Store) (visit : Visit) (now : Instant) (limit : Nat) :
    (evictTerminal visit now limit).run store =
      .ok (store.evictable visit now limit).length
        (store.dropAll (store.evictable visit now limit)) := rfl

/-! Records. -/

theorem record?_touch (store : Store) (handle : Handle) (step : UploadSession.Step)
    (asked : Handle) :
    (store.touch handle step).record? asked =
      if handle = asked then (store.record? asked).map (·.apply step) else store.record? asked := by
  rw [record?, touch, List.getElem?_modify, record?]
  split <;> simp

theorem touch_eq_setRecord {store : Store} {handle : Handle} {session : UploadSession}
    (held : store.record? handle = some session) (step : UploadSession.Step) :
    store.touch handle step = store.setRecord handle (session.apply step) := by
  rw [touch, setRecord]
  congr 1
  apply List.ext_getElem?
  intro asked
  rw [List.getElem?_modify, List.getElem?_set]
  by_cases same : handle = asked
  · subst same
    obtain ⟨inside, rfl⟩ := List.getElem?_eq_some_iff.mp held
    simp [inside]
  · simp [same]

theorem touch_of_none {store : Store} {handle : Handle} (missing : store.record? handle = none)
    (step : UploadSession.Step) : store.touch handle step = store := by
  rw [touch, List.modify_eq_self (List.getElem?_eq_none_iff.mp missing)]

theorem touch_of_apply_eq {store : Store} {handle : Handle} {step : UploadSession.Step}
    (same : ∀ session, store.record? handle = some session → session.apply step = session) :
    store.touch handle step = store := by
  cases held : store.record? handle with
  | none => exact touch_of_none held step
  | some session =>
    rw [touch_eq_setRecord held, same session held, setRecord]
    obtain ⟨inside, rfl⟩ := List.getElem?_eq_some_iff.mp held
    rw [List.set_getElem_self inside]

theorem records_dropAll (store : Store) (entries : List Entry) :
    (store.dropAll entries).records = store.records := by
  induction entries generalizing store with
  | nil => rfl
  | cons entry rest inductionHypothesis => exact inductionHypothesis (store.drop entry)

end ReleaseUpload.Store
