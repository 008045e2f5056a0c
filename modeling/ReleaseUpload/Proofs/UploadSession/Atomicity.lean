import ReleaseUpload.Proofs.UploadSession.Requests
import ReleaseUpload.UploadSession.Drawing

/-!
Requests are granted as a whole or not at all. A request may fire several events one after another,
and there is nothing to roll back, yet only the first of them is ever refused. So a refusal names
the event that the request entered by, and leaves the record and the source of identifiers alone.
-/

namespace ReleaseUpload

/-- The action is refused if and only if the table has no way on for the event that it enters by,
under the names of that event and of the state that it met; and then nothing has changed. -/
structure AllOrNothing {State σ α : Type} (action : EStateM Refusal σ α) (before : σ)
    (next? : Option State) (machine state operation : String) : Prop where
  refused_iff : (∃ refusal after, action.run before = .error refusal after) ↔ next? = none
  named : ∀ refusal after, action.run before = .error refusal after →
    refusal.machine = machine ∧ refusal.state = state ∧ refusal.operation = operation
  untouched : ∀ refusal after, action.run before = .error refusal after → after = before

/-- It is enough to know what becomes of the action in either case of its entry. -/
theorem AllOrNothing.of_entry {State σ α : Type} {action : EStateM Refusal σ α} {before : σ}
    {next? : Option State} (refusal : Refusal)
    (refused : next? = none → action.run before = .error refusal before)
    (taken : ∀ next, next? = some next → ∃ answer after, action.run before = .ok answer after) :
    AllOrNothing action before next? refusal.machine refusal.state refusal.operation := by
  cases entry : next? with
  | none =>
    have run := refused entry
    refine ⟨⟨fun _ => rfl, fun _ => ⟨refusal, before, run⟩⟩, ?_, ?_⟩
    · intro other after ran
      cases run.symm.trans ran
      exact ⟨rfl, rfl, rfl⟩
    · intro other after ran
      cases run.symm.trans ran
      rfl
  | some next =>
    obtain ⟨answer, granted, run⟩ := taken next entry
    have never : ∀ other after, action.run before ≠ .error other after := by
      intro other after ran
      cases run.symm.trans ran
    refine ⟨⟨?_, nofun⟩, ?_, ?_⟩
    · rintro ⟨other, after, ran⟩
      exact absurd ran (never other after)
    · exact fun other after ran => absurd ran (never other after)
    · exact fun other after ran => absurd ran (never other after)

theorem FileUpload.allOrNothing (settings : UploadSettings) (now : Instant) (request : Request)
    (file : FileUpload) :
    AllOrNothing (perform settings now request) file (file.state.next? request.event)
      "file upload session" file.state.name request.event.name := by
  apply AllOrNothing.of_entry (.file file.state request.event)
  · exact perform_run_of_none
  · exact fun next taken => ⟨_, _, perform_run_of_some taken⟩

namespace UploadSession

theorem allOrNothing_own (policy : Policy) (now : Instant) {request : Request} {event : Event}
    (entry : request.event? = some event) (session : UploadSession) :
    AllOrNothing (perform policy now request) session (session.state.next? event)
      "upload session" session.state.name event.name := by
  apply AllOrNothing.of_entry (.session session.state event)
  · exact perform_run_of_none entry
  · exact fun next taken => ⟨_, _, perform_run_of_some entry taken⟩

/-- A file is reached through its session, and a refusal leaves the whole session alone. -/
theorem allOrNothing_file (policy : Policy) (now : Instant) {session : UploadSession} {id : FileId}
    {file : FileUpload} (found : session.file? id = some file) (asked : FileUpload.Request) :
    AllOrNothing (perform policy now (.file id asked)) session (file.state.next? asked.event)
      "file upload session" file.state.name asked.event.name := by
  have run := perform_run policy now (.file id asked) session
  simp only [refusal?, found, Option.bind_some, FileUpload.refusal?] at run
  apply AllOrNothing.of_entry (.file file.state asked.event)
  · intro refused
    rw [run, refused]
  · intro next taken
    rw [run, taken]
    exact ⟨_, _, rfl⟩

theorem create_run_of_none {session : UploadSession}
    (refused : session.state.next? .createFile = none) (policy : Policy) (now : Instant)
    (id : FileId) (declaration : FileUpload.Declaration) (mechanism : String) :
    (create policy now id declaration mechanism).run session =
      .error (.session session.state .createFile) session := by
  simp only [create, EStateM.run_bind, fire_run, refused]

theorem create_run_of_some {session : UploadSession} {next : State}
    (taken : session.state.next? .createFile = some next) (policy : Policy) (now : Instant)
    (id : FileId) (declaration : FileUpload.Declaration) (mechanism : String) :
    ∃ created after,
      (create policy now id declaration mechanism).run session = .ok created after := by
  have run := @perform_run_of_some policy now (.create id declaration mechanism) session _ rfl _
    taken
  simp only [perform, EStateM.run_bind] at run
  cases ran : (create policy now id declaration mechanism).run session with
  | ok created after => exact ⟨created, after, rfl⟩
  | error refusal after =>
    rw [ran] at run
    cases run

/-- A refused creation draws no identifier. -/
theorem allOrNothing_createDrawn {World : Type} (source : World → FileId × World) (world : World)
    (policy : Policy) (now : Instant) (declaration : FileUpload.Declaration) (mechanism : String)
    (session : UploadSession) :
    AllOrNothing (createDrawn source policy now declaration mechanism) (session, world)
      (session.state.next? .createFile) "upload session" session.state.name
      "create_file_upload_session" := by
  have run := createDrawn_run source policy now declaration mechanism session world
  apply AllOrNothing.of_entry (.session session.state .createFile)
  · intro refused
    rw [run, create_run_of_none refused]
  · intro next taken
    obtain ⟨created, after, ran⟩ :=
      create_run_of_some taken policy now (source world).1 declaration mechanism
    rw [run, ran]
    cases created <;> exact ⟨_, _, rfl⟩

/-- No request is refused half way, whatever the record, the clock and the arguments: one to a file
on its own, one to a session, one to a file through its session, and the creation of a file under
an identifier that is still to be drawn. -/
theorem all_or_nothing (policy : Policy) (now : Instant) :
    (∀ (file : FileUpload) (request : FileUpload.Request),
      AllOrNothing (FileUpload.perform policy.uploads now request) file
        (file.state.next? request.event)
        "file upload session" file.state.name request.event.name) ∧
    (∀ (session : UploadSession) (request : Request) (event : Event),
      request.event? = some event →
      AllOrNothing (perform policy now request) session (session.state.next? event)
        "upload session" session.state.name event.name) ∧
    (∀ (session : UploadSession) (id : FileId) (file : FileUpload) (request : FileUpload.Request),
      session.file? id = some file →
      AllOrNothing (perform policy now (.file id request)) session
        (file.state.next? request.event)
        "file upload session" file.state.name request.event.name) ∧
    ∀ (World : Type) (source : World → FileId × World) (world : World) (session : UploadSession)
      (declaration : FileUpload.Declaration) (mechanism : String),
      AllOrNothing (createDrawn source policy now declaration mechanism) (session, world)
        (session.state.next? .createFile)
        "upload session" session.state.name "create_file_upload_session" := by
  refine ⟨?_, ?_, ?_, ?_⟩
  · exact fun file request => file.allOrNothing policy.uploads now request
  · exact fun session request event entry => allOrNothing_own policy now entry session
  · exact fun session id file request found => allOrNothing_file policy now found request
  · intro World source world session declaration mechanism
    exact allOrNothing_createDrawn source world policy now declaration mechanism session

/-- A file whose bytes have arrived. -/
def arrivedFile : FileUpload :=
  { FileUpload.new (.ofParts 1700000000 0) (.ofSeconds 60) ⟨1#128⟩
      { filename := "demo-1.0.tar.gz", size := 7 } (.httpPost Mechanism.defaultUrlBase) with
    state := .complete }

/-- A session that was canceled with a complete file in it. -/
def abandonedSession : UploadSession :=
  { UploadSession.new (.ofParts 1700000000 0) (.ofSeconds 60) ⟨0#128⟩ "demo" "1.0" "" with
    files := [arrivedFile], state := .canceled }

theorem abandonedSession_refuses :
    let now : Instant := .ofParts 1700000000 0
    (Request.event? .publish = some .publish ∧
      AllOrNothing (perform .standard now .publish) abandonedSession
        (State.next? .canceled .publish) "upload session" "canceled" "publish") ∧
    abandonedSession.file? ⟨1#128⟩ = some arrivedFile ∧
      AllOrNothing (perform .standard now (.file ⟨1#128⟩ .ready)) abandonedSession
        (FileUpload.State.next? .complete .ready) "file upload session" "complete" "ready" := by
  intro now
  obtain ⟨-, own, reached, -⟩ := all_or_nothing .standard now
  have found : abandonedSession.file? ⟨1#128⟩ = some arrivedFile := by rfl
  refine ⟨⟨rfl, ?_⟩, found, ?_⟩
  · exact own abandonedSession .publish .publish rfl
  · exact reached abandonedSession ⟨1#128⟩ arrivedFile .ready found

end UploadSession

end ReleaseUpload
