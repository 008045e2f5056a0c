import ReleaseUpload.Proofs.Store.Insertion
import ReleaseUpload.Proofs.Store.Sightings

/-!
Conflicts between releases. What decides whether a session can be taken in is the text that its
token was derived from: project, version and the nonce at the first sight of the token, set side by
side. A `Ledger` is a store that remembers how each session in it was made. `conflicts_of_moves`
says that a session is refused if and only if one of the same text is there, unless two of the texts
have one digest.
-/

namespace ReleaseUpload

/-- No two of these inputs have one digest. -/
def Sha256.CollisionFree (inputs : List (List UInt8)) : Prop :=
  ∀ one ∈ inputs, ∀ other ∈ inputs, digest one = digest other → one = other

instance (inputs : List (List UInt8)) : Decidable (Sha256.CollisionFree inputs) :=
  inferInstanceAs (Decidable (∀ one ∈ inputs, ∀ other ∈ inputs, _ → _))

namespace UploadSession

/-- The nonce that a session has at the first step of a run that shows its token, or at the end of
the run if none does. -/
def nonceAtFirstSight (session : UploadSession) : List Step → String
  | [] => session.nonce
  | step :: rest =>
    match session.shownToken? step with
    | some _ => session.nonce
    | none => (session.apply step).nonceAtFirstSight rest

/-- Whatever has been seen or written on the way, the token is that of the first sight. -/
theorem Unseen.token_after {project version nonce : String} {session : UploadSession}
    (unseen : Unseen project version nonce session) (steps : List Step) :
    (session.after steps).token =
      .derive project version (session.nonceAtFirstSight steps) := by
  induction steps generalizing session nonce with
  | nil => rw [after_nil, nonceAtFirstSight, unseen.nonce, unseen.token_eq]
  | cons step rest inductionHypothesis =>
    rw [after_cons, nonceAtFirstSight]
    cases shown : session.shownToken? step with
    | none => exact inductionHypothesis (unseen.apply shown)
    | some token =>
      obtain ⟨same, fixed⟩ := fixed_of_shownToken? shown
      rw [token_of_seen (after_seenToken fixed rest), ← same, unseen.token_eq, unseen.nonce]

end UploadSession

namespace Store

/-- A session as its owner made it: what it began with, and what has happened to it since. -/
structure Draft where
  created : Instant
  lifetime : Span
  id : SessionId
  project : String
  version : String
  nonce : String
  steps : List UploadSession.Step

namespace Draft

def start (draft : Draft) : UploadSession :=
  .new draft.created draft.lifetime draft.id draft.project draft.version draft.nonce

def session (draft : Draft) : UploadSession := draft.start.after draft.steps

/-- The nonce at the first sight of the token, which is the insertion at the latest. -/
def seenNonce (draft : Draft) : String := draft.start.nonceAtFirstSight draft.steps

/-- What the token is derived from, with nothing between the parts. -/
def release (draft : Draft) : String := draft.project ++ draft.version ++ draft.seenNonce

theorem token_session (draft : Draft) :
    draft.session.token = .derive draft.project draft.version draft.seenNonce := by
  have unseen : UploadSession.Unseen draft.project draft.version draft.nonce draft.start :=
    ⟨rfl, rfl, rfl, rfl⟩
  exact unseen.token_after draft.steps

theorem bytes_token (draft : Draft) :
    draft.session.token.bytes = Sha256.digest (Text.bytes draft.release) := by
  rw [token_session]
  rfl

theorem project_session (draft : Draft) : draft.session.project = draft.project :=
  (draft.start.release_after draft.steps).1

theorem version_session (draft : Draft) : draft.session.version = draft.version :=
  (draft.start.release_after draft.steps).2

theorem takenRelease_session (draft : Draft) :
    takenRelease draft.session =
      "upload session for " ++ draft.project ++ "==" ++ draft.version := by
  have named : takenRelease draft.session =
      "upload session for " ++ draft.session.project ++ "==" ++ draft.session.version := rfl
  rw [named, project_session, version_session]

theorem token_eq_of_release_eq {one other : Draft} (same : one.release = other.release) :
    one.session.token = other.session.token := by
  rw [Token.mk.injEq, bytes_token, bytes_token, same]

/-- The bytes that are hashed for some sessions. -/
def inputs (drafts : List Draft) : List (List UInt8) := drafts.map (Text.bytes ·.release)

theorem release_eq_of_token_eq {drafts : List Draft}
    (free : Sha256.CollisionFree (inputs drafts)) {one other : Draft} (listed : one ∈ drafts)
    (listedToo : other ∈ drafts) (same : one.session.token = other.session.token) :
    one.release = other.release := by
  apply Text.bytes_injective
  apply free _ (List.mem_map_of_mem listed) _ (List.mem_map_of_mem listedToo)
  rw [← bytes_token, ← bytes_token, same]

/-- What has become of a session that was taken in. -/
structure Became (draft : Draft) (record : UploadSession) : Prop where
  project : record.project = draft.project
  version : record.version = draft.version
  seenToken : record.seenToken = some draft.session.token

theorem became_seeToken (draft : Draft) : draft.Became draft.session.seeToken where
  project := draft.project_session
  version := draft.version_session
  seenToken := rfl

theorem Became.after {draft : Draft} {record : UploadSession} (became : draft.Became record)
    (steps : List UploadSession.Step) : draft.Became (record.after steps) where
  project := (record.release_after steps).1.trans became.project
  version := (record.release_after steps).2.trans became.version
  seenToken := UploadSession.after_seenToken became.seenToken steps

end Draft

def Step.inserts : Step → Bool
  | .insert _ => true
  | _ => false

theorem length_records_apply {step : Step} (others : step.inserts = false) (store : Store) :
    (store.apply step).records.length = store.records.length := by
  cases step with
  | insert session => cases others
  | remove id =>
    rw [apply_remove]
    split <;> rfl
  | evictTerminal visit now limit => rw [apply_evictTerminal, records_dropAll]
  | expired visit now limit => rfl
  | sweep listing eviction settings now =>
    rw [apply_sweep, records_swept, length_records_reapAll]
  | on handle step => exact List.length_modify _ _ _

/-- What can happen to a store of sessions that were made. -/
inductive Move where
  | insert (draft : Draft)
  | other (step : Step) (others : step.inserts = false)

def Move.step : Move → Step
  | .insert draft => .insert draft.session
  | .other step _ => step

/-- A store, and how the sessions that it has taken in were made. -/
structure Ledger where
  store : Store
  drafts : List Draft

namespace Ledger

def empty : Ledger := ⟨.empty, []⟩

def apply (ledger : Ledger) : Move → Ledger
  | .insert draft =>
    match (Store.insert draft.session).run ledger.store with
    | .ok _ store => ⟨store, ledger.drafts ++ [draft]⟩
    | .error _ store => ⟨store, ledger.drafts⟩
  | .other step _ => ⟨ledger.store.apply step, ledger.drafts⟩

def after (ledger : Ledger) (moves : List Move) : Ledger := moves.foldl apply ledger

theorem store_apply (ledger : Ledger) (move : Move) :
    (ledger.apply move).store = ledger.store.apply move.step := by
  cases move with
  | insert draft =>
    rw [apply, Move.step, Store.apply, leaves]
    cases (Store.insert draft.session).run ledger.store <;> rfl
  | other step others => rfl

theorem store_after (ledger : Ledger) (moves : List Move) :
    (ledger.after moves).store = ledger.store.after (moves.map Move.step) := by
  induction moves generalizing ledger with
  | nil => rfl
  | cons move rest inductionHypothesis =>
    rw [after, List.foldl_cons, ← after, inductionHypothesis, store_apply]
    rfl

/-- The ledger knows of each record how it was made. -/
structure Faithful (ledger : Ledger) : Prop where
  length_eq : ledger.drafts.length = ledger.store.records.length
  became : ∀ handle draft, ledger.drafts[handle]? = some draft →
    ∃ record, ledger.store.record? handle = some record ∧ draft.Became record

theorem Faithful.inserted {ledger : Ledger} (faithful : ledger.Faithful) (draft : Draft) :
    Faithful ⟨ledger.store.inserted draft.session, ledger.drafts ++ [draft]⟩ where
  length_eq := by
    rw [List.length_append, Store.inserted, List.length_append, faithful.length_eq]
    rfl
  became handle made listed := by
    rw [record?_inserted, ← faithful.length_eq]
    rw [List.getElem?_append] at listed
    split_ifs at listed with older
    · rw [if_neg (Nat.ne_of_lt older)]
      exact faithful.became handle made listed
    -- The record that has come last is that of the draft that has come last.
    · rw [List.getElem?_singleton] at listed
      split_ifs at listed with last
      cases listed
      rw [if_pos (Nat.le_antisymm (Nat.le_of_sub_eq_zero last) (Nat.le_of_not_lt older))]
      exact ⟨_, rfl, draft.became_seeToken⟩

theorem Faithful.apply {ledger : Ledger} (faithful : ledger.Faithful) (move : Move) :
    (ledger.apply move).Faithful := by
  cases move with
  | insert draft =>
    rw [Ledger.apply]
    cases ran : (Store.insert draft.session).run ledger.store with
    | error refusal left =>
      obtain rfl := eq_of_insert_refused ran
      exact faithful
    | ok handle after =>
      obtain ⟨-, rfl, rfl⟩ := insert_run_eq_ok_iff.mp ran
      exact faithful.inserted draft
  | other step others =>
    refine ⟨faithful.length_eq.trans (length_records_apply others ledger.store).symm, ?_⟩
    intro handle draft listed
    obtain ⟨record, held, became⟩ := faithful.became handle draft listed
    obtain ⟨steps, found⟩ := record?_apply held step
    exact ⟨_, found, became.after steps⟩

theorem Faithful.after {ledger : Ledger} (faithful : ledger.Faithful) (moves : List Move) :
    (ledger.after moves).Faithful := by
  induction moves generalizing ledger with
  | nil => exact faithful
  | cons move rest inductionHypothesis => exact inductionHypothesis (faithful.apply move)

theorem faithful_empty : empty.Faithful := ⟨rfl, fun _ _ listed => nomatch listed⟩

/-- The store has a session under an identifier, and this is how it was made. -/
structure Holds (ledger : Ledger) (id : SessionId) (handle : Handle) (draft : Draft) : Prop where
  found : ledger.store.get? id = some handle
  made : ledger.drafts[handle]? = some draft

/-- Some session of the store has this text. -/
def HasRelease (ledger : Ledger) (release : String) : Prop :=
  ∃ id handle draft, ledger.Holds id handle draft ∧ draft.release = release

section

variable {ledger : Ledger} (faithful : ledger.Faithful) (consistent : Consistent ledger.store)
include faithful consistent

theorem exists_holds {id : SessionId} {handle : Handle}
    (found : ledger.store.get? id = some handle) : ∃ draft, ledger.Holds id handle draft := by
  have inside := consistent.lt_of_mem (consistent.get?_eq_some_iff.mp found)
  rw [← faithful.length_eq] at inside
  exact ⟨ledger.drafts[handle], found, List.getElem?_eq_getElem inside⟩

theorem lookup_token_of_holds {id : SessionId} {handle : Handle} {draft : Draft}
    (holds : ledger.Holds id handle draft) :
    ledger.store.tokens.lookup draft.session.token = some id := by
  obtain ⟨record, held, became⟩ := faithful.became handle draft holds.made
  exact consistent.lookup_tokens_iff.mpr
    ⟨handle, record, ⟨holds.found, held⟩, UploadSession.token_of_seen became.seenToken⟩

/-- A token that is taken is that of a session as it was made. -/
theorem exists_holds_of_lookup {token : Token} {id : SessionId}
    (named : ledger.store.tokens.lookup token = some id) :
    ∃ handle draft, ledger.Holds id handle draft ∧ draft.session.token = token := by
  obtain ⟨handle, found⟩ := consistent.exists_get?_of_lookup named
  obtain ⟨draft, holds⟩ := exists_holds faithful consistent found
  obtain ⟨other, record, stored, same⟩ := consistent.lookup_tokens_iff.mp named
  cases stored.found.symm.trans found
  obtain ⟨made, held, became⟩ := faithful.became handle draft holds.made
  cases held.symm.trans stored.held
  exact ⟨handle, draft, holds, (UploadSession.token_of_seen became.seenToken).symm.trans same⟩

theorem insert_run_of_hasRelease {draft : Draft} (has : ledger.HasRelease draft.release) :
    (insert draft.session).run ledger.store = .error
      (.alreadyExists ("upload session for " ++ draft.project ++ "==" ++ draft.version))
      ledger.store := by
  obtain ⟨id, handle, other, holds, same⟩ := has
  have named := lookup_token_of_holds faithful consistent holds
  rw [Draft.token_eq_of_release_eq same] at named
  have refused : (insert draft.session).run ledger.store =
      .error (.alreadyExists (takenRelease draft.session)) ledger.store := by
    rw [insert_run, named, if_pos Option.isSome_some]
  rw [refused, draft.takenRelease_session]

/-- Without a collision the token is free unless the text is there. -/
theorem lookup_token_eq_none {draft : Draft}
    (free : Sha256.CollisionFree (Draft.inputs (draft :: ledger.drafts)))
    (apart : ¬ledger.HasRelease draft.release) :
    ledger.store.tokens.lookup draft.session.token = none := by
  rw [Option.eq_none_iff_forall_ne_some]
  intro id named
  obtain ⟨handle, other, holds, same⟩ := exists_holds_of_lookup faithful consistent named
  have listed : other ∈ draft :: ledger.drafts :=
    List.mem_cons_of_mem _ (List.mem_of_getElem? holds.made)
  exact apart ⟨id, handle, other, holds,
    Draft.release_eq_of_token_eq free listed List.mem_cons_self same⟩

end

/-- When sessions stand in each other's way. -/
structure Conflicts (ledger : Ledger) : Prop where
  /-- The token of a session is the digest of project, version and nonce set side by side. -/
  known : ∀ id handle, ledger.store.get? id = some handle →
    ∃ draft record, ledger.Holds id handle draft ∧ ledger.store.record? handle = some record ∧
      record.project = draft.project ∧ record.version = draft.version ∧
      record.token.bytes = Sha256.digest
        (Text.bytes draft.project ++ Text.bytes draft.version ++ Text.bytes draft.seenNonce)
  apart : ∀ id handle draft other place twin, ledger.Holds id handle draft →
    ledger.Holds other place twin → draft.release = twin.release → id = other ∧ handle = place
  /-- However the text is divided. -/
  taken : ∀ draft : Draft, ledger.HasRelease draft.release →
    (insert draft.session).run ledger.store = .error
      (.alreadyExists ("upload session for " ++ draft.project ++ "==" ++ draft.version))
      ledger.store
  refused_iff : ∀ draft : Draft, Sha256.CollisionFree (Draft.inputs (draft :: ledger.drafts)) →
    ledger.store.get? draft.session.id = none →
      ((∃ refusal left, (insert draft.session).run ledger.store = .error refusal left) ↔
        ledger.HasRelease draft.release)
  unblocked : ∀ draft : Draft, Sha256.CollisionFree (Draft.inputs (draft :: ledger.drafts)) →
    ledger.store.get? draft.session.id = none → ¬ledger.HasRelease draft.release →
      ∃ handle after, (insert draft.session).run ledger.store = .ok handle after
  /-- Whether one session can be taken in does not depend on whether another one has been. -/
  independent : ∀ one other : Draft, Sha256.CollisionFree (Draft.inputs [one, other]) →
    one.release ≠ other.release → one.session.id ≠ other.session.id →
      ((∃ handle after, (insert other.session).run (ledger.store.apply (.insert one.session)) =
          .ok handle after) ↔
        ∃ handle after, (insert other.session).run ledger.store = .ok handle after)

theorem insert_after_insert {one other : Draft} (store : Store)
    (free : Sha256.CollisionFree (Draft.inputs [one, other])) (apart : one.release ≠ other.release)
    (ids : one.session.id ≠ other.session.id) :
    (∃ handle after, (insert other.session).run (store.apply (.insert one.session)) =
        .ok handle after) ↔
      ∃ handle after, (insert other.session).run store = .ok handle after := by
  have tokens : other.session.token ≠ one.session.token := fun same =>
    apart (Draft.release_eq_of_token_eq free (by simp) (by simp) same.symm)
  rw [apply_insert]
  split_ifs with granted
  -- The entries that came in have another token and another identifier, so no look-up meets them.
  · simp only [insert_run_eq_ok_iff, get?_inserted (Option.isNone_iff_eq_none.mp granted.2),
      if_neg ids.symm]
    rw [inserted, lookup_append_of_free (Option.isNone_iff_eq_none.mp granted.1), if_neg tokens]
    simp
  · rfl

theorem Faithful.conflicts {ledger : Ledger} (faithful : ledger.Faithful)
    (consistent : Consistent ledger.store) : Conflicts ledger := by
  have granted : ∀ draft : Draft, Sha256.CollisionFree (Draft.inputs (draft :: ledger.drafts)) →
      ledger.store.get? draft.session.id = none → ¬ledger.HasRelease draft.release →
        ∃ handle after, (insert draft.session).run ledger.store = .ok handle after :=
    fun draft free fresh apart => ⟨_, _, insert_run_eq_ok_iff.mpr
      ⟨⟨lookup_token_eq_none faithful consistent free apart, fresh⟩, rfl, rfl⟩⟩
  constructor
  case known =>
    intro id handle found
    obtain ⟨draft, holds⟩ := exists_holds faithful consistent found
    obtain ⟨record, held, became⟩ := faithful.became handle draft holds.made
    refine ⟨draft, record, holds, held, became.project, became.version, ?_⟩
    rw [UploadSession.token_of_seen became.seenToken, draft.bytes_token, Draft.release,
      Text.bytes_append, Text.bytes_append]
  case apart =>
    intro id handle draft other place twin holds holdsToo same
    have named := lookup_token_of_holds faithful consistent holds
    rw [Draft.token_eq_of_release_eq same, lookup_token_of_holds faithful consistent holdsToo]
      at named
    cases named
    exact ⟨rfl, Option.some.inj (holds.found.symm.trans holdsToo.found)⟩
  case taken => exact fun draft has => insert_run_of_hasRelease faithful consistent has
  case refused_iff =>
    intro draft free fresh
    constructor
    · rintro ⟨refusal, left, refused⟩
      by_contra apart
      obtain ⟨handle, after, run⟩ := granted draft free fresh apart
      cases run.symm.trans refused
    · exact fun has => ⟨_, _, insert_run_of_hasRelease faithful consistent has⟩
  case unblocked => exact granted
  case independent =>
    exact fun one other free apart ids => insert_after_insert ledger.store free apart ids

/-- Every run of a store is kept by a ledger, if its sessions were made. -/
theorem exists_moves {steps : List Step}
    (made : ∀ session, .insert session ∈ steps → ∃ draft : Draft, draft.session = session) :
    ∃ moves : List Move, moves.map Move.step = steps := by
  induction steps with
  | nil => exact ⟨[], rfl⟩
  | cons step rest inductionHypothesis =>
    obtain ⟨moves, rfl⟩ := inductionHypothesis fun session listed =>
      made session (List.mem_cons_of_mem _ listed)
    have first : ∃ move : Move, move.step = step := by
      cases step with
      | insert session =>
        obtain ⟨draft, rfl⟩ := made session List.mem_cons_self
        exact ⟨.insert draft, rfl⟩
      | _ => exact ⟨.other _ rfl, rfl⟩
    obtain ⟨move, rfl⟩ := first
    exact ⟨move :: moves, rfl⟩

/-- Sessions conflict if and only if their texts are the same, in every store of sessions that were
made: each run of such a store consists of moves. -/
theorem conflicts_of_moves :
    (∀ steps : List Step,
      (∀ session, .insert session ∈ steps → ∃ draft : Draft, draft.session = session) →
        ∃ moves : List Move, (empty.after moves).store = Store.empty.after steps) ∧
    ∀ moves : List Move, Conflicts (empty.after moves) := by
  constructor
  · intro steps made
    obtain ⟨moves, rfl⟩ := exists_moves made
    exact ⟨moves, empty.store_after moves⟩
  · intro moves
    have reachable : Reachable (empty.after moves).store := ⟨_, (empty.store_after moves).symm⟩
    exact (faithful_empty.after moves).conflicts reachable.consistent

/-- A session with nothing special about its times. -/
def draftOf (id : SessionId) (project version nonce : String)
    (steps : List UploadSession.Step) : Draft :=
  ⟨.ofParts 1700000000 0, .ofSeconds 60, id, project, version, nonce, steps⟩

/-- The first three sessions have one text. The second divides it in another way, and the third gets
it from a nonce that is written before its token is read and written over afterwards. -/
theorem divided_conflicts :
    let first := draftOf ⟨1#128⟩ "ab" "c" "" []
    let second := draftOf ⟨2#128⟩ "a" "bc" "" []
    let third := draftOf ⟨3#128⟩ "a" "" ""
      [.write (.nonce "bc"), .readToken, .write (.nonce "late")]
    let fourth := draftOf ⟨4#128⟩ "ab" "d" "" []
    let ledger := empty.after [.insert first, .other (.on 0 (.write (.nonce "other"))) rfl]
    Conflicts ledger ∧
      (insert second.session).run ledger.store =
        .error (.alreadyExists "upload session for a==bc") ledger.store ∧
      (insert third.session).run ledger.store =
        .error (.alreadyExists "upload session for a==") ledger.store ∧
      Sha256.CollisionFree (Draft.inputs (fourth :: ledger.drafts)) ∧
      ∃ handle after, (insert fourth.session).run ledger.store = .ok handle after := by
  intro first second third fourth ledger
  have conflicts : Conflicts ledger := conflicts_of_moves.2 _
  have has : ledger.HasRelease "abc" := ⟨⟨1#128⟩, 0, first, ⟨by rfl, by rfl⟩, by rfl⟩
  have free : Sha256.CollisionFree (Draft.inputs (fourth :: ledger.drafts)) := by decide +kernel
  have apart : ¬ledger.HasRelease fourth.release := by
    rintro ⟨id, handle, draft, holds, same⟩
    have drafts : ledger.drafts = [first] := by rfl
    have made := List.mem_of_getElem? holds.made
    rw [drafts, List.mem_singleton] at made
    subst made
    exact absurd same (by decide +kernel)
  exact ⟨conflicts, conflicts.taken second has, conflicts.taken third has, free,
    conflicts.unblocked fourth free (by rfl) apart⟩

end Ledger

end Store

end ReleaseUpload
