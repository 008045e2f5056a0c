import ReleaseUpload.Proofs.Store.Indexes
import ReleaseUpload.Proofs.UploadSession.Looks

/-!
One session followed from its owner into a store that others use as well. On the way its token may
be seen: read, shown with the status, taken by the insertion, or as the key of a look-up that leads
to the session. Whatever is seen first fixes the token, so `sightings_agree`: it is always the same
one, and the nonce in it is the last that was written before.
-/

namespace ReleaseUpload

namespace UploadSession

/-- The token that can be read off what a step shows. -/
def Shown.token? : Shown → Option Token
  | .token seen => some seen
  | .status shown => (Token.ofHex shown.token).toOption
  | _ => none

/-- The token that a step shows. -/
def shownToken? (session : UploadSession) (step : Step) : Option Token :=
  match answers step.action session with
  | .ok shown => shown.token?
  | .error _ => none

/-- The nonce that a step writes. -/
def Step.nonce? : Step → Option String
  | .write (.nonce nonce) => some nonce
  | _ => none

theorem shownToken?_look {step : Step} (look : step.isLook = true) (session : UploadSession) :
    session.shownToken? step = some session.token := by
  cases step with
  | readToken => rfl
  | showStatus policy now =>
    have read : session.shownToken? (.showStatus policy now) =
        (Token.ofHex session.token.toHex).toOption := rfl
    rw [read, Token.ofHex_toHex]
    rfl
  | _ => cases look

theorem shownToken?_of_unlooked {step : Step} (unlooked : step.isLook = false)
    (session : UploadSession) : session.shownToken? step = none := by
  cases step with
  | readToken => cases unlooked
  | showStatus policy now => cases unlooked
  | write edit => rfl
  | ask policy now request =>
    simp only [shownToken?, answers, Step.action, EStateM.run_bind]
    cases (perform policy now request).run session <;> rfl
  | reap now =>
    rw [shownToken?, answers, action_reap_run]
    split_ifs
    · cases (cancelExpired now).run session <;> rfl
    · rfl

/-- A step shows the token that the session has, and fixes it. -/
theorem fixed_of_shownToken? {session : UploadSession} {step : Step} {token : Token}
    (shown : session.shownToken? step = some token) :
    session.token = token ∧ (session.apply step).seenToken = some token := by
  cases looks : step.isLook with
  | false =>
    rw [shownToken?_of_unlooked looks] at shown
    cases shown
  | true =>
    rw [shownToken?_look looks] at shown
    rw [seenToken_apply_look looks]
    exact ⟨Option.some.inj shown, shown⟩

/-- A session whose token nobody has seen, so that it can still become any that goes with the
release. -/
structure Unseen (project version nonce : String) (session : UploadSession) : Prop where
  seenToken : session.seenToken = none
  project : session.project = project
  version : session.version = version
  nonce : session.nonce = nonce

namespace Unseen

variable {project version nonce : String} {session : UploadSession}

theorem token_eq (unseen : Unseen project version nonce session) :
    session.token = .derive project version nonce := by
  rw [token, unseen.seenToken, Option.getD_none, unseen.project, unseen.version, unseen.nonce]

theorem apply (unseen : Unseen project version nonce session) {step : Step}
    (unshown : session.shownToken? step = none) :
    Unseen project version (step.nonce?.getD nonce) (session.apply step) := by
  have unlooked : step.isLook = false := by
    cases looks : step.isLook with
    | false => rfl
    | true =>
      rw [shownToken?_look looks] at unshown
      cases unshown
  obtain ⟨seenToken, rfl, rfl, rfl⟩ := unseen
  cases step with
  | ask policy now request =>
    rw [apply_ask_same]
    exact ⟨seenToken, rfl, rfl, rfl⟩
  | write edit => cases edit <;> exact ⟨seenToken, rfl, rfl, rfl⟩
  | readToken => cases unlooked
  | showStatus policy now => cases unlooked
  | reap now =>
    rw [(session.reaped_apply_reap now).same]
    exact ⟨seenToken, rfl, rfl, rfl⟩

end Unseen

end UploadSession

namespace Store

theorem bears_of_insert {store after : Store} {session : UploadSession} {handle : Handle}
    (run : (insert session).run store = .ok handle after) :
    after.Bears handle session.token := by
  rw [insert_run] at run
  split_ifs at run
  cases run
  exact ⟨session.seeToken, by rw [record?_inserted, if_pos rfl], rfl⟩

/-- Where the session is that is followed. -/
inductive Whereabouts where
  /-- With its owner. -/
  | draft (session : UploadSession)
  /-- Taken in by the store, which may have let go of it since. -/
  | held (handle : Handle)
  /-- Gone with a refused insertion. -/
  | lost

structure Scene where
  store : Store
  place : Whereabouts

namespace Scene

inductive Step where
  /-- A step of the session while its owner has it. -/
  | draft (step : UploadSession.Step)
  | insert
  /-- Anything that happens to the store: other sessions come, all of them move on, some go. -/
  | store (step : Store.Step)
  | find (token : Token)

def apply (scene : Scene) : Step → Scene
  | .draft step =>
    match scene.place with
    | .draft session => { scene with place := .draft (session.apply step) }
    | _ => scene
  | .insert =>
    match scene.place with
    | .draft session =>
      match (Store.insert session).run scene.store with
      | .ok handle store => ⟨store, .held handle⟩
      | .error _ store => ⟨store, .lost⟩
    | _ => scene
  | .store step => { scene with store := scene.store.apply step }
  | .find _ => scene

def after (scene : Scene) (steps : List Step) : Scene := steps.foldl apply scene

/-- The token of the session that is followed, if a step lets it be seen. -/
def sighting? (scene : Scene) : Step → Option Token
  | .draft step =>
    match scene.place with
    | .draft session => session.shownToken? step
    | _ => none
  | .insert =>
    match scene.place with
    | .draft session => some session.token
    | _ => none
  | .store (.on handle step) =>
    match scene.place with
    | .held own =>
      if handle = own then (scene.store.record? own).bind (·.shownToken? step) else none
    | _ => none
  | .store _ => none
  | .find token =>
    match scene.place with
    | .held handle => if scene.store.find? token = some handle then some token else none
    | _ => none

/-- The tokens that are seen during a run. -/
def sightings (scene : Scene) : List Step → List Token
  | [] => []
  | step :: rest => (scene.sighting? step).toList ++ (scene.apply step).sightings rest

/-- The nonce that the owner writes in a step. -/
def Step.nonce? : Step → Option String
  | .draft step => step.nonce?
  | _ => none

/-- The last nonce that the owner writes in a run, or else the one there was. -/
def lastNonce (nonce : String) (steps : List Step) : String :=
  steps.foldl (fun nonce step => step.nonce?.getD nonce) nonce

@[simp] theorem after_nil (scene : Scene) : scene.after [] = scene := rfl

@[simp] theorem after_cons (scene : Scene) (step : Step) (rest : List Step) :
    scene.after (step :: rest) = (scene.apply step).after rest := rfl

theorem sightings_append (scene : Scene) (first second : List Step) :
    scene.sightings (first ++ second) =
      scene.sightings first ++ (scene.after first).sightings second := by
  induction first generalizing scene with
  | nil => rfl
  | cons step rest inductionHypothesis =>
    rw [List.cons_append, sightings, inductionHypothesis, sightings, List.append_assoc, after_cons]

/-- The record of the session that is followed. -/
def session? (scene : Scene) : Option UploadSession :=
  match scene.place with
  | .draft session => some session
  | .held handle => scene.store.record? handle
  | .lost => none

/-- Nobody has seen the token, so the session is still with its owner. -/
def Unseen (scene : Scene) (project version nonce : String) : Prop :=
  ∃ session, scene.place = .draft session ∧ session.Unseen project version nonce

/-- The token is fixed, wherever the session is. -/
def Fixed (scene : Scene) (token : Token) : Prop :=
  match scene.place with
  | .draft session => session.seenToken = some token
  | .held handle => scene.store.Bears handle token
  | .lost => True

theorem consistent_apply {scene : Scene} (consistent : Consistent scene.store) (step : Step) :
    Consistent (scene.apply step).store := by
  obtain ⟨store, place⟩ := scene
  cases step with
  | draft step => cases place <;> exact consistent
  | find token => exact consistent
  | store step => exact consistent.apply step
  | insert =>
    cases place with
    | draft session =>
      have inserted := consistent.apply (.insert session)
      rw [Store.apply] at inserted
      cases ran : (Store.insert session).run store with
      | ok handle after =>
        rw [leaves_of_ok ran] at inserted
        simpa only [apply, ran] using inserted
      | error refusal after =>
        rw [leaves_of_error ran] at inserted
        simpa only [apply, ran] using inserted
    | _ => exact consistent

theorem Unseen.apply {scene : Scene} {project version nonce : String}
    (unseen : scene.Unseen project version nonce) {step : Step}
    (unsighted : scene.sighting? step = none) :
    (scene.apply step).Unseen project version (step.nonce?.getD nonce) := by
  obtain ⟨store, place⟩ := scene
  obtain ⟨session, rfl, unseen⟩ := unseen
  cases step with
  | draft step => exact ⟨session.apply step, rfl, unseen.apply unsighted⟩
  | insert => cases unsighted
  | store step => exact ⟨session, rfl, unseen⟩
  | find token => exact ⟨session, rfl, unseen⟩

theorem Unseen.after {scene : Scene} {project version nonce : String}
    (unseen : scene.Unseen project version nonce) {steps : List Step}
    (unsighted : scene.sightings steps = []) :
    (scene.after steps).Unseen project version (lastNonce nonce steps) := by
  induction steps generalizing scene nonce with
  | nil => exact unseen
  | cons step rest inductionHypothesis =>
    rw [sightings, List.append_eq_nil_iff] at unsighted
    exact inductionHypothesis (unseen.apply (Option.toList_eq_nil_iff.mp unsighted.1)) unsighted.2

theorem fixed_apply_insert (store : Store) (session : UploadSession) :
    (apply ⟨store, .draft session⟩ .insert).Fixed session.token := by
  cases ran : (Store.insert session).run store with
  | ok handle after =>
    simp only [apply, ran]
    exact bears_of_insert ran
  | error refusal after =>
    simp only [apply, ran]
    exact trivial

section

variable {scene : Scene} {token : Token}

theorem Fixed.apply (fixed : scene.Fixed token) (step : Step) : (scene.apply step).Fixed token := by
  obtain ⟨store, place⟩ := scene
  cases place with
  | draft session =>
    cases step with
    | draft step => exact UploadSession.apply_seenToken fixed step
    | insert =>
      have inserted := fixed_apply_insert store session
      rw [UploadSession.token_of_seen fixed] at inserted
      exact inserted
    | _ => exact fixed
  | held handle =>
    cases step with
    | store step => exact Bears.apply fixed step
    | _ => exact fixed
  | lost => cases step <;> exact trivial

theorem Fixed.token_eq (fixed : scene.Fixed token) {session : UploadSession}
    (there : scene.session? = some session) : session.token = token := by
  obtain ⟨store, place⟩ := scene
  cases place with
  | draft owned =>
    cases there
    exact UploadSession.token_of_seen fixed
  | held handle =>
    obtain ⟨record, held, seen⟩ := fixed
    cases held.symm.trans there
    exact UploadSession.token_of_seen seen
  | lost => cases there

/-- Whatever is seen of the session is the token that it has, and from then on it is fixed. -/
theorem fixed_of_sighting? (consistent : Consistent scene.store) {step : Step}
    (seen : scene.sighting? step = some token) :
    (∃ session, scene.session? = some session ∧ session.token = token) ∧
      (scene.apply step).Fixed token := by
  obtain ⟨store, place⟩ := scene
  cases place with
  | draft session =>
    cases step with
    | draft step =>
      obtain ⟨same, fixed⟩ := UploadSession.fixed_of_shownToken? seen
      exact ⟨⟨session, rfl, same⟩, fixed⟩
    | insert =>
      cases seen
      exact ⟨⟨session, rfl, rfl⟩, fixed_apply_insert store session⟩
    | store step => cases step <;> cases seen
    | find asked => cases seen
  | held own =>
    cases step with
    | store step =>
      cases step with
      | on handle step =>
        simp only [sighting?] at seen
        split_ifs at seen with same
        subst same
        obtain ⟨session, held, shown⟩ := Option.bind_eq_some_iff.mp seen
        obtain ⟨same, fixed⟩ := UploadSession.fixed_of_shownToken? shown
        refine ⟨⟨session, held, same⟩, session.apply step, ?_, fixed⟩
        change (store.touch handle step).record? handle = _
        rw [record?_touch, if_pos rfl, held, Option.map_some]
      | _ => cases seen
    | find asked =>
      simp only [sighting?] at seen
      split_ifs at seen with found
      cases seen
      obtain ⟨id, session, stored, rfl⟩ := consistent.find?_eq_some_iff.mp found
      exact ⟨⟨session, stored.held, rfl⟩, consistent.bears_token stored⟩
    | _ => cases seen
  | lost =>
    cases step with
    | store step => cases step <;> cases seen
    | _ => cases seen

theorem Fixed.eq_of_mem_sightings (fixed : scene.Fixed token) (consistent : Consistent scene.store)
    {steps : List Step} : ∀ other ∈ scene.sightings steps, other = token := by
  induction steps generalizing scene with
  | nil => exact fun other listed => nomatch listed
  | cons step rest inductionHypothesis =>
    intro other listed
    rcases List.mem_append.mp listed with now | later
    · obtain ⟨⟨session, there, same⟩, -⟩ :=
        fixed_of_sighting? consistent (Option.mem_toList.mp now)
      rw [← same, fixed.token_eq there]
    · exact inductionHypothesis (fixed.apply step) (consistent_apply consistent step) other later

end

theorem after_append (scene : Scene) (first second : List Step) :
    scene.after (first ++ second) = (scene.after first).after second :=
  List.foldl_append

theorem consistent_after {scene : Scene} (consistent : Consistent scene.store)
    (steps : List Step) : Consistent (scene.after steps).store := by
  induction steps generalizing scene with
  | nil => exact consistent
  | cons step rest inductionHypothesis => exact inductionHypothesis (consistent_apply consistent step)

theorem Fixed.after {scene : Scene} {token : Token} (fixed : scene.Fixed token)
    (steps : List Step) : (scene.after steps).Fixed token := by
  induction steps generalizing scene with
  | nil => exact fixed
  | cons step rest inductionHypothesis => exact inductionHypothesis (fixed.apply step)

/-- What `first` lets be seen of a session, and all that is seen of it afterwards. -/
structure Agreement (start : Scene) (before : List Step) (first : Step) (later : List Step)
    (project version nonce : String) (token : Token) : Prop where
  derived : token = .derive project version (lastNonce nonce before)
  nonce : ∃ session, (start.after before).session? = some session ∧
    session.nonce = lastNonce nonce before
  sightings : ∀ other ∈ start.sightings (before ++ first :: later), other = token
  /-- As long as the store has the session, the token leads to it. -/
  found : ∀ id handle, (start.after (before ++ first :: later)).place = .held handle →
    (start.after (before ++ first :: later)).store.get? id = some handle →
      (start.after (before ++ first :: later)).store.find? token = some handle
  undisturbed : ∀ other refusal left,
    (Store.insert other).run (start.after (before ++ first :: later)).store =
      .error refusal left →
    start.after (before ++ first :: later ++ [.store (.insert other)]) =
      start.after (before ++ first :: later)

theorem apply_insert_of_refused {scene : Scene} {other : UploadSession} {refusal : StoreError}
    {left : Store} (refused : (Store.insert other).run scene.store = .error refusal left) :
    scene.apply (.store (.insert other)) = scene := by
  rw [apply, Store.apply, leaves_of_error refused, eq_of_insert_refused refused]

/-- Whoever sees the token of a session, and in whatever way, sees the same one. It is the token of
the release with the last nonce that was written before anyone saw it. -/
theorem sightings_agree (created : Instant) (lifetime : Span) (id : SessionId)
    (project version nonce : String) {before : List Step} {first : Step} (later : List Step)
    {token : Token}
    (unseen : sightings ⟨empty, .draft (.new created lifetime id project version nonce)⟩ before = [])
    (seen : (after ⟨empty, .draft (.new created lifetime id project version nonce)⟩
      before).sighting? first = some token) :
    Agreement ⟨empty, .draft (.new created lifetime id project version nonce)⟩ before first later
      project version nonce token := by
  have fresh : Unseen ⟨empty, .draft (.new created lifetime id project version nonce)⟩
    project version nonce := ⟨_, rfl, rfl, rfl, rfl, rfl⟩
  have consistent : Consistent (Scene.mk empty
    (.draft (.new created lifetime id project version nonce))).store := .empty
  generalize Scene.mk empty (.draft (.new created lifetime id project version nonce)) = start
    at unseen seen fresh consistent ⊢
  obtain ⟨session, place, unshown⟩ := fresh.after unseen
  have there : (start.after before).session? = some session := by rw [session?, place]
  obtain ⟨⟨same, found, rfl⟩, fixed⟩ := fixed_of_sighting? (consistent_after consistent before) seen
  cases there.symm.trans found
  constructor
  case derived => exact unshown.token_eq
  case nonce => exact ⟨session, there, unshown.nonce⟩
  case sightings =>
    intro other listed
    rw [sightings_append, unseen, List.nil_append, Scene.sightings, seen] at listed
    rcases List.mem_append.mp listed with now | later
    · exact List.mem_singleton.mp now
    · exact fixed.eq_of_mem_sightings
        (consistent_apply (consistent_after consistent before) first) other later
  case found =>
    intro id handle place stored
    have last := fixed.after later
    rw [← after_cons, ← after_append, Fixed, place] at last
    obtain ⟨record, held, same⟩ := last
    exact (consistent_after consistent _).find?_eq_some_iff.mpr
      ⟨id, record, ⟨stored, held⟩, UploadSession.token_of_seen same⟩
  case undisturbed =>
    intro other refusal left refused
    rw [after_append]
    exact apply_insert_of_refused refused

/-- The owner writes a nonce while another session comes in. -/
def renamedDraft : List Step :=
  [.draft (.write (.nonce "other")), .store (.insert (shownSession ⟨1#128⟩ "first"))]

/-- A nonce that is written too late, a session that is refused, a look-up and a look. -/
def renamedTooLate : List Step :=
  [.store (.on 1 (.write (.nonce "late"))), .store (.insert (shownSession ⟨2#128⟩ "first")),
    .find (.derive "demo" "1.0" "other"),
    .store (.on 1 (.showStatus .standard (.ofParts 1700000000 0)))]

/-- Here it is the insertion that fixes the token. -/
theorem renamedDraft_agrees :
    let start : Scene :=
      ⟨empty, .draft (.new (.ofParts 1700000000 0) (.ofSeconds 60) ⟨0#128⟩ "demo" "1.0" "")⟩
    start.sightings renamedDraft = [] ∧
      (start.after renamedDraft).sighting? .insert = some (.derive "demo" "1.0" "other") ∧
      Agreement start renamedDraft .insert renamedTooLate "demo" "1.0" ""
        (.derive "demo" "1.0" "other") := by
  intro start
  have unseen : start.sightings renamedDraft = [] := by rfl
  have seen : (start.after renamedDraft).sighting? .insert =
      some (.derive "demo" "1.0" "other") := by rfl
  exact ⟨unseen, seen, sightings_agree (.ofParts 1700000000 0) (.ofSeconds 60) ⟨0#128⟩ "demo" "1.0"
    "" renamedTooLate unseen seen⟩

end Scene

end Store

end ReleaseUpload
