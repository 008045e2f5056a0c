import ReleaseUpload.Proofs.UploadSession.Runs

/-!
Looks at the status in the middle of a run. A look fixes the token, as any first sight of it does,
and changes nothing else. `looks_between` compares a run with the same run where looks have been put
in between: the steps of the run show what they showed, but for the token.
-/

namespace ReleaseUpload

/-- What an action answers, or how it is refused. -/
def answers {ε σ α : Type} (action : EStateM ε σ α) (before : σ) : Except ε α :=
  match action.run before with
  | .ok answer _ => .ok answer
  | .error error _ => .error error

namespace UploadSession

/-- What a step shows to whoever takes it. -/
inductive Shown where
  | reply (reply : Reply)
  | token (token : Token)
  | status (shown : Status)
  | canceled (files : Nat)
  | nothing

/-- The same with another token wherever there is one to be seen. -/
def Shown.withToken (token : Token) : Shown → Shown
  | .token _ => .token token
  | .status shown => .status { shown with token := token.toHex }
  | other => other

/-- The action behind a step. -/
def Step.action : Step → Action Shown
  | .ask policy now request => return .reply (← perform policy now request)
  | .write edit => do
    modify (·.edit edit)
    return .nothing
  | .readToken => return .token (← UploadSession.readToken)
  | .showStatus policy now => return .status (← UploadSession.showStatus policy now)
  | .reap now => do
    if Store.isOverdue now (← get) then return .canceled (← cancelExpired now) else return .nothing

theorem action_reap_run (now : Instant) (session : UploadSession) :
    (Step.reap now).action.run session =
      if Store.isOverdue now session then
        match (cancelExpired now).run session with
        | .ok files after => .ok (.canceled files) after
        | .error refusal after => .error refusal after
      else .ok .nothing session := by
  simp only [Step.action, EStateM.run_bind, EStateM.run_get]
  split
  · rw [EStateM.run_bind]
    cases (cancelExpired now).run session <;> rfl
  · rfl

theorem leaves_action (step : Step) (session : UploadSession) :
    leaves step.action session = session.apply step := by
  cases step with
  | ask policy now request =>
    simp only [Step.action, apply, leaves, EStateM.run_bind]
    cases (perform policy now request).run session <;> rfl
  | write edit => rfl
  | readToken => rfl
  | showStatus policy now => rfl
  | reap now =>
    rw [leaves, action_reap_run, apply, leaves]
    split_ifs
    · cases (cancelExpired now).run session <;> rfl
    · rfl

/-! Actions that make no use of the token. -/

/-- The session with another token fixed, or with none. -/
def withSeen (seen : Option Token) (session : UploadSession) : UploadSession :=
  { session with seenToken := seen }

section

variable (seen : Option Token) (session : UploadSession)

@[simp] theorem canPublish_withSeen : (session.withSeen seen).canPublish = session.canPublish := rfl

@[simp] theorem hasErrors_withSeen : (session.withSeen seen).hasErrors = session.hasErrors := rfl

@[simp] theorem isExpired_withSeen (now : Instant) :
    (session.withSeen seen).isExpired now = session.isExpired now := rfl

@[simp] theorem file?_withSeen (id : FileId) :
    (session.withSeen seen).file? id = session.file? id := rfl

theorem refusal?_withSeen (request : Request) :
    (session.withSeen seen).refusal? request = session.refusal? request := by
  cases request <;> rfl

theorem accepted_withSeen (policy : Policy) (now : Instant) (request : Request) :
    (session.withSeen seen).accepted policy now request =
      ((session.accepted policy now request).1,
        (session.accepted policy now request).2.withSeen seen) := by
  cases request with
  | create id declaration mechanism =>
    simp only [accepted]
    cases policy.mechanisms.get? mechanism <;> rfl
  | publish =>
    cases tested : session.canPublish <;> simp only [accepted, canPublish_withSeen, tested] <;> rfl
  | cancel => rfl
  | fail notice => rfl
  | revalidate =>
    cases tested : session.hasErrors <;> simp only [accepted, hasErrors_withSeen, tested] <;> rfl
  | extend seconds =>
    cases tested : session.isExpired now <;> simp only [accepted, isExpired_withSeen, tested] <;> rfl
  | file id asked =>
    simp only [accepted, file?_withSeen]
    cases session.file? id <;> rfl

end

/-- The action goes the same way whatever token has been seen, and leaves it alone. -/
def Blind {α : Type} (action : Action α) : Prop :=
  ∀ seen session, action.run (session.withSeen seen) =
    match action.run session with
    | .ok answer after => .ok answer (after.withSeen seen)
    | .error refusal after => .error refusal (after.withSeen seen)

namespace Blind

variable {α β : Type}

theorem pure (answer : α) : Blind (Pure.pure answer : Action α) := fun _ _ => rfl

theorem bind {action : Action α} {next : α → Action β} (head : Blind action)
    (tail : ∀ answer, Blind (next answer)) : Blind (action >>= next) := by
  intro seen session
  simp only [EStateM.run_bind, head seen session]
  cases action.run session with
  | ok answer after => exact tail answer seen after
  | error refusal after => rfl

theorem fire (event : Event) : Blind (UploadSession.fire event) := by
  intro seen session
  simp only [fire_run, withSeen]
  cases session.state.next? event <;> rfl

theorem onFile (id : FileId) (action : FileUpload.Action α) :
    Blind (UploadSession.onFile id action) := by
  intro seen session
  simp only [onFile_run, file?_withSeen]
  cases session.file? id with
  | none => rfl
  | some file => cases ran : action.run file <;> simp only [ran] <;> rfl

theorem cancelFiles (ids : List FileId) : Blind (UploadSession.cancelFiles ids) := by
  induction ids with
  | nil => exact .pure 0
  | cons id rest inductionHypothesis =>
    exact .bind (.onFile id FileUpload.cancel) fun canceled =>
      .bind inductionHypothesis fun others => .pure _

theorem cancelExpired (now : Instant) : Blind (UploadSession.cancelExpired now) := by
  intro seen session
  -- The files that are overdue are the same whatever has been seen.
  have canceling : Blind (do
      let canceled ← UploadSession.cancelFiles (session.overdue now)
      let _ ← cancel
      return canceled) :=
    .bind (.cancelFiles _) fun canceled => .bind (.fire .cancel) fun state => .pure canceled
  exact canceling seen session

theorem perform (policy : Policy) (now : Instant) (request : Request) :
    Blind (UploadSession.perform policy now request) := by
  intro seen session
  rw [perform_run, perform_run, refusal?_withSeen, accepted_withSeen]
  cases session.refusal? request <;> rfl

section

variable {action : Action α} (blind : Blind action) (seen : Option Token) (session : UploadSession)
include blind

theorem answers_eq : answers action (session.withSeen seen) = answers action session := by
  simp only [answers, blind seen session]
  cases action.run session <;> rfl

theorem leaves_eq :
    leaves action (session.withSeen seen) = (leaves action session).withSeen seen := by
  simp only [leaves, blind seen session]
  cases action.run session <;> rfl

end

end Blind

/-! Steps. -/

/-- The step shows the token, and so fixes it. -/
def Step.isLook : Step → Bool
  | .readToken | .showStatus .. => true
  | _ => false

theorem apply_look {step : Step} (look : step.isLook = true) (session : UploadSession) :
    session.apply step = session.seeToken := by
  cases step with
  | readToken => rfl
  | showStatus policy now => rfl
  | _ => cases look

theorem seenToken_apply_look {step : Step} (look : step.isLook = true) (session : UploadSession) :
    (session.apply step).seenToken = some session.token := by
  rw [apply_look look, seeToken]

theorem Blind.step {step : Step} (unlooked : step.isLook = false) : Blind step.action := by
  cases step with
  | ask policy now request => exact .bind (.perform policy now request) fun reply => .pure _
  | write edit =>
    intro seen session
    cases edit <;> rfl
  | readToken => cases unlooked
  | showStatus policy now => cases unlooked
  | reap now =>
    intro seen session
    have visit : Blind (if Store.isOverdue now session then
        return .canceled (← UploadSession.cancelExpired now) else return .nothing :
        Action Shown) := by
      split
      · exact .bind (.cancelExpired now) fun files => .pure _
      · exact .pure _
    exact visit seen session

/-- Only a look shows a token. -/
theorem answers_map_withToken {step : Step} (unlooked : step.isLook = false) (token : Token)
    (session : UploadSession) :
    (answers step.action session).map (Shown.withToken token) = answers step.action session := by
  cases step with
  | ask policy now request =>
    simp only [answers, Step.action, EStateM.run_bind]
    cases (perform policy now request).run session <;> rfl
  | write edit => rfl
  | readToken => cases unlooked
  | showStatus policy now => cases unlooked
  | reap now =>
    rw [answers, action_reap_run]
    split_ifs
    · cases (cancelExpired now).run session <;> rfl
    · rfl

section

variable (token : Token) (session : UploadSession) (step : Step)

/-- With another token fixed a step shows what it showed, but for that token. -/
theorem answers_withSeen :
    answers step.action (session.withSeen (some token)) =
      (answers step.action session).map (Shown.withToken token) := by
  cases looks : step.isLook with
  | false => rw [(Blind.step looks).answers_eq, answers_map_withToken looks]
  | true =>
    cases step with
    | readToken => rfl
    | showStatus policy now => rfl
    | _ => cases looks

theorem apply_withSeen :
    (session.withSeen (some token)).apply step =
      (session.apply step).withSeen (some token) := by
  cases looks : step.isLook with
  | false => rw [← leaves_action, (Blind.step looks).leaves_eq, leaves_action]
  | true =>
    rw [apply_look looks, apply_look looks]
    rfl

end

/-! Runs. -/

/-- What the steps of a run show, one after another. -/
def shows (session : UploadSession) : List Step → List (Except Refusal Shown)
  | [] => []
  | step :: rest => answers step.action session :: (session.apply step).shows rest

theorem shows_append (session : UploadSession) (first second : List Step) :
    session.shows (first ++ second) = session.shows first ++ (session.after first).shows second := by
  induction first generalizing session with
  | nil => rfl
  | cons step rest inductionHypothesis =>
    rw [List.cons_append, shows, inductionHypothesis, shows, List.cons_append, after_cons]

/-- Every token that a run shows is the one that is fixed at its end. -/
theorem shows_map_withToken (session : UploadSession) (steps : List Step) :
    (session.shows steps).map (·.map (Shown.withToken (session.after steps).token)) =
      session.shows steps := by
  induction steps generalizing session with
  | nil => rfl
  | cons step rest inductionHypothesis =>
    rw [shows, List.map_cons, after_cons, inductionHypothesis]
    congr 1
    cases looks : step.isLook with
    | false => exact answers_map_withToken looks _ session
    | true =>
      have fixed := seenToken_apply_look looks session
      rw [token_of_seen (after_seenToken fixed rest)]
      cases step with
      | readToken => rfl
      | showStatus policy now => rfl
      | _ => cases looks

def Step.keepsNonce : Step → Bool
  | .write (.nonce _) => false
  | _ => true

theorem token_apply {step : Step} (kept : step.keepsNonce = true) (session : UploadSession) :
    (session.apply step).token = session.token := by
  cases step with
  | ask policy now request => rw [apply_ask_same, token, token]
  | write edit =>
    cases edit with
    | nonce nonce => cases kept
    | _ => rfl
  | readToken => rfl
  | showStatus policy now => rfl
  | reap now => rw [(session.reaped_apply_reap now).same, token, token]

/-- Only the nonce that the first look meets matters. -/
theorem token_after {session : UploadSession} {steps : List Step}
    (kept : session.seenToken.isSome = true ∨
      ∀ step ∈ steps.takeWhile (!·.isLook), step.keepsNonce = true) :
    (session.after steps).token = session.token := by
  rcases kept with seen | kept
  · obtain ⟨token, seen⟩ := Option.isSome_iff_exists.mp seen
    rw [token_of_seen (after_seenToken seen steps), token_of_seen seen]
  · induction steps generalizing session with
    | nil => rfl
    | cons step rest inductionHypothesis =>
      rw [after_cons]
      cases looks : step.isLook with
      | false =>
        rw [List.takeWhile_cons_of_pos (by simp [looks]), List.forall_mem_cons] at kept
        rw [inductionHypothesis kept.2, token_apply kept.1]
      | true => exact token_of_seen (after_seenToken (seenToken_apply_look looks session) rest)

/-! Runs with looks put in between. -/

/-- A step of the run itself, or a look that has been put in. -/
inductive Turn where
  | own (step : Step)
  | look (policy : Policy) (now : Instant)

def Turn.step : Turn → Step
  | .own step => step
  | .look policy now => .showStatus policy now

/-- The run without the looks. -/
def ownSteps (turns : List Turn) : List Step :=
  turns.filterMap fun
    | .own step => some step
    | .look .. => none

/-- What the steps of the run itself show while there are looks in between. -/
def ownShows (session : UploadSession) : List Turn → List (Except Refusal Shown)
  | [] => []
  | .own step :: rest => answers step.action session :: (session.apply step).ownShows rest
  | .look policy now :: rest => (session.apply (.showStatus policy now)).ownShows rest

theorem ownSteps_map_own (steps : List Step) : ownSteps (steps.map .own) = steps := by
  rw [ownSteps, List.filterMap_map]
  exact List.filterMap_some

theorem ownShows_map_own_append (session : UploadSession) (steps : List Step)
    (turns : List Turn) :
    session.ownShows (steps.map .own ++ turns) =
      session.shows steps ++ (session.after steps).ownShows turns := by
  induction steps generalizing session with
  | nil => rfl
  | cons step rest inductionHypothesis =>
    rw [List.map_cons, List.cons_append, ownShows, inductionHypothesis, shows, List.cons_append,
      after_cons]

/-- Once the token is fixed further looks change nothing. -/
theorem run_withSeen (token : Token) (session : UploadSession) (turns : List Turn) :
    (session.withSeen (some token)).ownShows turns =
        (session.shows (ownSteps turns)).map (·.map (Shown.withToken token)) ∧
      (session.withSeen (some token)).after (turns.map Turn.step) =
        (session.after (ownSteps turns)).withSeen (some token) := by
  induction turns generalizing session with
  | nil => exact ⟨rfl, rfl⟩
  | cons turn rest inductionHypothesis =>
    cases turn with
    | own step =>
      obtain ⟨shown, left⟩ := inductionHypothesis (session.apply step)
      rw [List.map_cons, after_cons, Turn.step, ownShows, answers_withSeen, apply_withSeen, shown,
        left]
      exact ⟨rfl, rfl⟩
    | look policy now => exact inductionHypothesis session

/-- Looks at the status put into a run, the first of them after `before`. They fix the token that is
to be seen there: the steps of the run show what they showed and leave the record that they left,
with this token in it. Nothing is changed at all if the token had been seen before, or if the nonce
is not written between the first of the looks and the next step that shows the token anyway. -/
theorem looks_between (session : UploadSession) (before : List Step) (policy : Policy)
    (now : Instant) (later : List Turn) :
    let turns := before.map Turn.own ++ .look policy now :: later
    let token := (session.after before).token
    session.ownShows turns =
        (session.shows (ownSteps turns)).map (·.map (Shown.withToken token)) ∧
      session.after (turns.map Turn.step) =
        (session.after (ownSteps turns)).withSeen (some token) ∧
      ((session.after before).seenToken.isSome = true ∨
          (∀ step ∈ (ownSteps later).takeWhile (!·.isLook), step.keepsNonce = true) →
        session.ownShows turns = session.shows (ownSteps turns) ∧
          (session.after (turns.map Turn.step)).token =
            (session.after (ownSteps turns)).token) := by
  intro turns token
  have own : ownSteps turns = before ++ ownSteps later := by
    rw [ownSteps, List.filterMap_append, ← ownSteps, ownSteps_map_own]
    rfl
  have steps : turns.map Turn.step = before ++ .showStatus policy now :: later.map Turn.step := by
    rw [List.map_append, List.map_map]
    exact congrArg (· ++ _) (List.map_id before)
  have settled : (session.after before).apply (.showStatus policy now) =
      (session.after before).withSeen (some token) := rfl
  obtain ⟨shown, left⟩ := run_withSeen token (session.after before) later
  have shows : session.ownShows turns =
      (session.shows (ownSteps turns)).map (·.map (Shown.withToken token)) := by
    rw [ownShows_map_own_append, ownShows, settled, shown, own, shows_append, List.map_append,
      shows_map_withToken]
  have leaves : session.after (turns.map Turn.step) =
      (session.after (ownSteps turns)).withSeen (some token) := by
    rw [steps, own, after_append, after_append, after_cons, settled, left]
  refine ⟨shows, leaves, fun kept => ?_⟩
  have same : (session.after (ownSteps turns)).token = token := by
    rw [own, after_append, token_after kept]
  constructor
  · rw [shows, ← same, shows_map_withToken]
  · rw [leaves, same, token_of_seen rfl]

/-- A file is declared before the first look. -/
def declaredRun : List Step :=
  [.ask .standard (.ofParts 1700000000 0)
    (.create ⟨1#128⟩ { filename := "demo-1.0.tar.gz", size := 7 } Mechanism.httpPostName)]

/-- Afterwards the token is read, and then the nonce is written. -/
def readThenRenamed : List Turn :=
  [.own (.ask .standard (.ofParts 1700000000 0) .publish), .own .readToken,
    .own (.write (.nonce "other"))]

theorem readThenRenamed_looked :
    let session := new (.ofParts 1700000000 0) (.ofSeconds 60) ⟨0#128⟩ "demo" "1.0" ""
    let turns :=
      declaredRun.map Turn.own ++ .look .standard (.ofParts 1700000000 0) :: readThenRenamed
    (∀ step ∈ (ownSteps readThenRenamed).takeWhile (!·.isLook), step.keepsNonce = true) ∧
      session.ownShows turns = session.shows (ownSteps turns) ∧
      (session.after (turns.map Turn.step)).token = (session.after (ownSteps turns)).token := by
  intro session turns
  have kept : ∀ step ∈ (ownSteps readThenRenamed).takeWhile (!·.isLook),
      step.keepsNonce = true := by
    simp [ownSteps, readThenRenamed, Step.isLook, Step.keepsNonce]
  obtain ⟨-, -, unchanged⟩ :=
    looks_between session declaredRun .standard (.ofParts 1700000000 0) readThenRenamed
  exact ⟨kept, unchanged (.inr kept)⟩

/-- The nonce is written after a look at the status, and then the token is read. -/
def renamedThenRead : List Turn :=
  [.look .standard (.ofParts 1700000000 0), .own (.write (.nonce "other")), .own .readToken]

/-- Here the look does make a difference: the token that is read is not the one that would have been
read without it. -/
theorem renamedThenRead_looked :
    let session := new (.ofParts 1700000000 0) (.ofSeconds 60) ⟨0#128⟩ "demo" "1.0" ""
    session.ownShows renamedThenRead ≠ session.shows (ownSteps renamedThenRead) ∧
      (session.after (renamedThenRead.map Turn.step)).token ≠
        (session.after (ownSteps renamedThenRead)).token := by
  intro session
  have apart : Token.derive "demo" "1.0" "" ≠ Token.derive "demo" "1.0" "other" := by
    decide +kernel
  refine ⟨fun same => ?_, apart⟩
  injection same with written read
  injection read with read
  injection read with read
  injection read with read
  exact apart read

end UploadSession

end ReleaseUpload
