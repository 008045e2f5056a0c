import Mathlib.Data.List.DropRight
import ReleaseUpload.Proofs.IdentifierText
import ReleaseUpload.Proofs.UploadSession.Children
import ReleaseUpload.Proofs.UploadSession.Snapshot

/-!
Upload URLs. The URL of a file is the base with one slash and the identifier after it, however many
slashes the base ends in, and no identifier has a slash in it. So whoever has a URL reads the
identifier behind its last slash, and files with different identifiers have different URLs.
`urls_identify_files` says so of every URL that a session gives away.
-/

namespace ReleaseUpload

/-! Texts and slashes. -/

namespace Text

/-- A text cut at its last slash. -/
structure CutAtLastSlash (text front last : String) : Prop where
  whole : text = front ++ "/" ++ last
  unbroken : '/' ∉ last.toList

def EndsInSlash (text : String) : Prop := text.toList.getLast? = some '/'

/-- There is only one last slash. -/
theorem CutAtLastSlash.unique {text front last other rest : String}
    (one : CutAtLastSlash text front last) (two : CutAtLastSlash text other rest) :
    front = other ∧ last = rest := by
  have same : front.toList ++ '/' :: last.toList = other.toList ++ '/' :: rest.toList := by
    simpa using congrArg String.toList (one.whole.symm.trans two.whole)
  -- If one cut lay before the other, its second part would have a slash in it.
  have cut : ∀ {last between rest : List Char}, '/' ∉ last →
      '/' :: last = between ++ '/' :: rest → between = [] ∧ last = rest := by
    intro last between rest unbroken texts
    cases between with
    | nil => exact ⟨rfl, (List.cons.inj texts).2⟩
    | cons first between =>
      rw [(List.cons.inj texts).2] at unbroken
      exact absurd (List.mem_append_right _ List.mem_cons_self) unbroken
  rcases List.append_eq_append_iff.mp same with ⟨between, fronts, lasts⟩ | ⟨between, fronts, lasts⟩
  · obtain ⟨rfl, tails⟩ := cut one.unbroken lasts
    rw [List.append_nil] at fronts
    exact ⟨String.toList_inj.mp fronts.symm, String.toList_inj.mp tails⟩
  · obtain ⟨rfl, tails⟩ := cut two.unbroken lasts
    rw [List.append_nil] at fronts
    exact ⟨String.toList_inj.mp fronts, String.toList_inj.mp tails.symm⟩

end Text

namespace Mechanism

theorem trimSlashes_append_slash (base : List Char) :
    trimSlashes (base ++ ['/']) = trimSlashes base :=
  List.rdropWhile_concat_pos _ _ _ rfl

theorem trimSlashes_append_slashes (base : List Char) (count : Nat) :
    trimSlashes (base ++ List.replicate count '/') = trimSlashes base := by
  induction count with
  | zero => rw [List.replicate_zero, List.append_nil]
  | succ count inductionHypothesis =>
    rw [List.replicate_succ', ← List.append_assoc, trimSlashes_append_slash, inductionHypothesis]

/-- A base is what is left of it with slashes behind. -/
theorem exists_eq_trimSlashes_append (base : List Char) :
    ∃ count, base = trimSlashes base ++ List.replicate count '/' := by
  have slashes : ∀ c ∈ base.rtakeWhile (· == '/'), c = '/' :=
    fun c found => beq_iff_eq.mp (List.mem_rtakeWhile_imp (p := (· == '/')) found)
  refine ⟨(base.rtakeWhile (· == '/')).length, ?_⟩
  rw [← List.eq_replicate_of_mem slashes]
  exact List.rdropWhile_append_rtakeWhile.symm

theorem getLast?_trimSlashes (base : List Char) : (trimSlashes base).getLast? ≠ some '/' := by
  intro last
  have filled : trimSlashes base ≠ [] := by
    intro none
    rw [none] at last
    cases last
  rw [List.getLast?_eq_some_getLast filled] at last
  exact List.rdropWhile_last_not (· == '/') base filled (beq_iff_eq.mpr (Option.some.inj last))

end Mechanism

theorem Id.slash_not_mem_toChars {kind : IdKind} (id : Id kind) : '/' ∉ id.toChars := by
  have none_such : ∀ value < 16, Hex.digit value ≠ '/' := by decide
  intro found
  rcases (grouped_toChars id).mem_text found with digit | hyphen
  · obtain ⟨value, small, same⟩ := Hex.exists_of_mem_digits digit
    exact none_such value small same
  · cases hyphen

/-! The URL of a file. -/

namespace Mechanism

/-- How a URL is put together, and how it is taken apart again. -/
structure UrlParts (base : String) (id : FileId) : Prop where
  built : ∃ front count, base = front ++ String.ofList (List.replicate count '/') ∧
    ¬Text.EndsInSlash front ∧ uploadUrl base id = front ++ "/" ++ id.toString
  /-- It does not matter how many slashes the base ends in. -/
  slashes : ∀ count, uploadUrl (base ++ String.ofList (List.replicate count '/')) id =
    uploadUrl base id
  cut : ∃ front last, Text.CutAtLastSlash (uploadUrl base id) front last
  read : ∀ front last, Text.CutAtLastSlash (uploadUrl base id) front last →
    ¬Text.EndsInSlash front ∧ Id.parse last = .ok id

theorem uploadUrl_eq (base : String) (id : FileId) :
    uploadUrl base id = String.ofList (trimSlashes base.toList) ++ "/" ++ id.toString := by
  rw [← String.toList_inj]
  simp [uploadUrl, Id.toString]

theorem cutAtLastSlash_uploadUrl (base : String) (id : FileId) :
    Text.CutAtLastSlash (uploadUrl base id) (String.ofList (trimSlashes base.toList))
      id.toString where
  whole := uploadUrl_eq base id
  unbroken := by
    rw [Id.toString, String.toList_ofList]
    exact id.slash_not_mem_toChars

theorem not_endsInSlash_trimSlashes (base : String) :
    ¬Text.EndsInSlash (String.ofList (trimSlashes base.toList)) := by
  rw [Text.EndsInSlash, String.toList_ofList]
  exact getLast?_trimSlashes base.toList

theorem urlParts (base : String) (id : FileId) : UrlParts base id where
  built := by
    obtain ⟨count, whole⟩ := exists_eq_trimSlashes_append base.toList
    refine ⟨_, count, ?_, not_endsInSlash_trimSlashes base, uploadUrl_eq base id⟩
    rw [← String.toList_inj, String.toList_append, String.toList_ofList, String.toList_ofList]
    exact whole
  slashes count := by
    rw [uploadUrl, uploadUrl, String.toList_append, String.toList_ofList,
      trimSlashes_append_slashes]
  cut := ⟨_, _, cutAtLastSlash_uploadUrl base id⟩
  read front last cut := by
    obtain ⟨rfl, rfl⟩ := cut.unique (cutAtLastSlash_uploadUrl base id)
    exact ⟨not_endsInSlash_trimSlashes base, Id.parse_toString id⟩

example : uploadUrl "//" ⟨1#128⟩ = "/00000000-0000-0000-0000-000000000001" := by decide +kernel

theorem uploadUrl_injective (base : String) {id other : FileId}
    (same : uploadUrl base id = uploadUrl base other) : id = other := by
  have cut := cutAtLastSlash_uploadUrl base other
  rw [← same] at cut
  have parsed := ((urlParts base id).read _ _ cut).2
  rw [Id.parse_toString] at parsed
  exact (Except.ok.inj parsed).symm

/-- The URL among instructions, if there is one. -/
def url? (instructions : Instructions) : Option String :=
  match instructions.fields.get? "upload-url" with
  | some (.text url) => some url
  | _ => none

theorem url?_httpPost (base : String) (id : FileId) :
    url? ((httpPost base).instructions id) = some (uploadUrl base id) := by
  have there : ((httpPost base).instructions id).fields.get? "upload-url" =
      some (.text (uploadUrl base id)) := by
    change (Dictionary.insert .empty "upload-url" _).get? "upload-url" = _
    rw [Dictionary.get?_insert, if_pos rfl]
  rw [url?, there]

end Mechanism

namespace FileUpload

/-- The URL that a file hands out, if it has one. -/
def uploadUrl? (file : FileUpload) : Option String :=
  file.instructions.bind Mechanism.url?

/-- The file was prepared with a mechanism of the registry. -/
structure Offered (registry : Registry) (file : FileUpload) : Prop where
  prepared : file.Prepared
  offered : registry.get? file.mechanism.name = some file.mechanism

theorem Offered.of_keepsIdentity {registry : Registry} {earlier later : FileUpload}
    (offered : earlier.Offered registry) (kept : KeepsIdentity earlier later) :
    later.Offered registry := by
  refine ⟨kept.prepared offered.prepared, ?_⟩
  rw [kept]
  exact offered.offered

theorem Offered.uploadUrl?_eq {registry : Registry} {file : FileUpload}
    (offered : file.Offered registry) {base : String}
    (http : registry.get? Mechanism.httpPostName = some (.httpPost base))
    (named : file.mechanism.name = Mechanism.httpPostName) :
    file.uploadUrl? = some (Mechanism.uploadUrl base file.id) := by
  have same := offered.offered
  rw [named, http, Option.some.injEq] at same
  rw [uploadUrl?, offered.prepared, Option.bind_some, ← same, Mechanism.url?_httpPost]

/-- Each file of the mechanism that takes uploads under a base has a URL, and whoever has the URL
knows which file it is. -/
structure UrlsIdentify (base : String) (files : List FileUpload) : Prop where
  url : ∀ file ∈ files, file.mechanism.name = Mechanism.httpPostName →
    file.uploadUrl? = some (Mechanism.uploadUrl base file.id)
  read : ∀ file ∈ files, file.mechanism.name = Mechanism.httpPostName →
    ∀ url front last, file.uploadUrl? = some url → Text.CutAtLastSlash url front last →
      Id.parse last = .ok file.id
  apart : ∀ one ∈ files, ∀ other ∈ files, one.mechanism.name = Mechanism.httpPostName →
    other.mechanism.name = Mechanism.httpPostName → one.id ≠ other.id →
      one.uploadUrl? ≠ other.uploadUrl?

theorem urlsIdentify_of_offered {registry : Registry} {base : String} {files : List FileUpload}
    (http : registry.get? Mechanism.httpPostName = some (.httpPost base))
    (offered : ∀ file ∈ files, file.Offered registry) : UrlsIdentify base files where
  url file found named := (offered file found).uploadUrl?_eq http named
  read file found named url front last handed cut := by
    rw [(offered file found).uploadUrl?_eq http named, Option.some.injEq] at handed
    subst handed
    exact ((Mechanism.urlParts base file.id).read front last cut).2
  apart one found other others named namedToo apart same := by
    rw [(offered one found).uploadUrl?_eq http named,
      (offered other others).uploadUrl?_eq http namedToo, Option.some.injEq] at same
    exact apart (Mechanism.uploadUrl_injective base same)

/-- Instructions that are there stay, whatever else has moved. -/
def KeepsInstructions (earlier later : FileUpload) : Prop :=
  earlier.instructions.isSome = true → later.instructions = earlier.instructions

namespace KeepsInstructions

theorem of_eq {earlier later : FileUpload} (same : later.instructions = earlier.instructions) :
    KeepsInstructions earlier later := fun _ => same

theorem refl (file : FileUpload) : KeepsInstructions file file := .of_eq rfl

theorem trans {first second third : FileUpload} (one : KeepsInstructions first second)
    (two : KeepsInstructions second third) : KeepsInstructions first third := by
  intro there
  have same := one there
  rw [two (same ▸ there), same]

theorem fillInstructions (file : FileUpload) : KeepsInstructions file file.fillInstructions := by
  intro there
  obtain ⟨instructions, found⟩ := Option.isSome_iff_exists.mp there
  rw [FileUpload.fillInstructions, found]
  exact found

theorem edit (file : FileUpload) (edit : Edit) : KeepsInstructions file (file.edit edit) := by
  cases edit with
  | instructions => exact .fillInstructions file
  | _ => exact .of_eq rfl

theorem accepted (file : FileUpload) (settings : UploadSettings) (now : Instant)
    (request : Request) : KeepsInstructions file (file.accepted settings now request) := by
  cases request with
  | prepare => exact .fillInstructions file
  | extend seconds =>
    apply of_eq
    rw [FileUpload.accepted]
    split <;> rfl
  | _ => exact .of_eq rfl

theorem perform (file : FileUpload) (settings : UploadSettings) (now : Instant)
    (request : Request) :
    KeepsInstructions file (leaves (FileUpload.perform settings now request) file) := by
  rw [leaves_perform]
  cases file.refusal? request with
  | some refusal => exact .refl file
  | none => exact .accepted file settings now request

theorem of_mayCancel {earlier later : FileUpload} (related : MayCancel earlier later) :
    KeepsInstructions earlier later := by
  rcases related with rfl | rfl <;> exact .of_eq rfl

end KeepsInstructions

end FileUpload

/-! Sessions. -/

namespace UploadSession

open FileUpload (KeepsInstructions Offered UrlsIdentify)

/-- Whatever the step asks for is asked for under this registry. -/
def Step.Under (registry : Registry) : Step → Prop
  | .ask policy _ _ => policy.mechanisms = registry
  | _ => True

/-- The step writes neither an identifier nor a mechanism into a file, as only a direct write can.
A file that has been given another identifier keeps the URL that it was created with. -/
def Step.keepsIdentities : Step → Bool
  | .write (.file _ (.id _)) | .write (.file _ (.mechanism _)) => false
  | _ => true

section

variable {registry : Registry} {session : UploadSession}

/-! What was created. -/

theorem offered_created {step : Step} (under : step.Under registry) {child : FileUpload}
    (created : session.created? step = some child) : child.Offered registry := by
  obtain ⟨-, policy, now, id, declaration, mechanism, rfl, declared⟩ := created?_eq_some created
  have same : policy.mechanisms = registry := under
  refine ⟨declared.prepared, ?_⟩
  rw [declared.named, ← same]
  exact declared.offered

theorem offered_creations {steps : List Step} (under : ∀ step ∈ steps, step.Under registry) :
    ∀ child ∈ session.creations steps, child.Offered registry := by
  induction steps generalizing session with
  | nil => exact fun child found => nomatch found
  | cons step rest inductionHypothesis =>
    rw [List.forall_mem_cons] at under
    intro child found
    rcases List.mem_append.mp found with now | later
    · exact offered_created under.1 (Option.mem_toList.mp now)
    · exact inductionHypothesis under.2 child later

/-! What is kept, whatever is written. -/

theorem keepsInstructions_after (session : UploadSession) (steps : List Step) :
    List.Forall₂ KeepsInstructions (session.files ++ session.creations steps)
      (session.after steps).files := by
  apply forall₂_files_after KeepsInstructions.refl fun _ _ _ one two => one.trans two
  intro before step later split
  apply forall₂_files_apply KeepsInstructions.refl
  · exact fun file _ => .perform file
  · exact fun _ _ related => .of_mayCancel related
  · exact fun _ edit _ file _ => .edit file edit

/-! What a file is at any time, if that is not written over. -/

theorem offered_edit {file : FileUpload} (offered : file.Offered registry)
    {edit : FileUpload.Edit} {id : FileId}
    (kept : (Step.write (.file id edit)).keepsIdentities = true) :
    (file.edit edit).Offered registry := by
  cases edit with
  | instructions =>
    rw [FileUpload.edit, FileUpload.fillInstructions, offered.prepared]
    exact offered
  | filename filename => exact ⟨offered.prepared, offered.offered⟩
  | expiration expiration => exact ⟨offered.prepared, offered.offered⟩
  | id other => cases kept
  | mechanism mechanism => cases kept

/-- Writing a name or a deadline into a file does not touch its URL. -/
theorem offered_apply (offered : ∀ file ∈ session.files, file.Offered registry) {step : Step}
    (under : step.Under registry) (kept : step.keepsIdentities = true) :
    ∀ file ∈ (session.apply step).files, file.Offered registry := by
  have related : List.Forall₂ (fun earlier later => earlier.Offered registry →
      later.Offered registry) (session.files ++ (session.created? step).toList)
      (session.apply step).files := by
    apply forall₂_files_apply fun _ offered => offered
    · exact fun file found settings now request offered => offered.of_keepsIdentity
        (FileUpload.keepsIdentity_perform offered.prepared settings now request)
    · exact fun _ _ related offered => offered.of_keepsIdentity (.of_mayCancel related)
    · rintro id edit rfl file - offered
      exact offered_edit offered kept
  intro file found
  obtain ⟨old, reached, carried⟩ := exists_mem_of_forall₂ related found
  rcases List.mem_append.mp reached with there | created
  · exact carried (offered old there)
  · exact carried (offered_created under (Option.mem_toList.mp created))

theorem offered_after (offered : ∀ file ∈ session.files, file.Offered registry)
    {steps : List Step} (under : ∀ step ∈ steps, step.Under registry)
    (kept : ∀ step ∈ steps, step.keepsIdentities = true) :
    ∀ file ∈ (session.after steps).files, file.Offered registry := by
  induction steps generalizing session with
  | nil => exact offered
  | cons step rest inductionHypothesis =>
    rw [List.forall_mem_cons] at under kept
    exact inductionHypothesis (offered_apply offered under.1 kept.1) under.2 kept.2

end

/-! What is handed out. -/

theorem url?_shown {session : UploadSession} {policy : Policy} {now : Instant} {name : String}
    {entry : FileUpload.Status} {details : Instructions}
    (listed : (session.statusAt policy now).files.get? name = some entry)
    (told : entry.mechanism.get? Mechanism.httpPostName = some details) :
    ∃ file, IsLatest session.files file ∧ file.declaration.filename = name ∧
      file.mechanism.name = Mechanism.httpPostName ∧ Mechanism.url? details = file.uploadUrl? := by
  obtain ⟨file, latest, named, shows⟩ := (get?_files_eq_some_iff policy now).mp listed
  rw [Dictionary.get?, shows.mechanism, Dictionary.lookup_cons_eq] at told
  split_ifs at told with same
  · cases told
    refine ⟨file, latest, named, same.symm, ?_⟩
    rw [FileUpload.uploadUrl?]
    cases file.instructions <;> rfl
  · cases told

/-- The URLs that a session hands out in the course of a run. -/
structure HandsOutUrls (base : String) (start : UploadSession) (steps : List Step) : Prop where
  /-- A client is told the URL of a file when it declares it. -/
  created : UrlsIdentify base (start.creations steps)
  /-- The URL stays, whatever has been asked of the file or written into it since. -/
  kept : List.Forall₂ (fun child file => file.uploadUrl? = child.uploadUrl?)
    (start.creations steps) (start.after steps).files
  /-- A file is identified by the URL that it has. Only a direct write of another identifier or
  another mechanism into a file is left out. No operation makes one: requests, looks and the reaper
  all leave both as they were when the file was created. -/
  current : (∀ step ∈ steps, step.keepsIdentities = true) →
    UrlsIdentify base (start.after steps).files
  /-- The URL of a file is what the status shows of it. -/
  shown : ∀ policy now name entry details,
    ((start.after steps).statusAt policy now).files.get? name = some entry →
    entry.mechanism.get? Mechanism.httpPostName = some details →
      ∃ file, IsLatest (start.after steps).files file ∧ file.declaration.filename = name ∧
        file.mechanism.name = Mechanism.httpPostName ∧ Mechanism.url? details = file.uploadUrl?

theorem handsOutUrls {registry : Registry} {base : String}
    (http : registry.get? Mechanism.httpPostName = some (.httpPost base)) {start : UploadSession}
    (bare : start.files = []) {steps : List Step} (under : ∀ step ∈ steps, step.Under registry) :
    HandsOutUrls base start steps := by
  have offered : ∀ child ∈ start.creations steps, child.Offered registry :=
    offered_creations under
  have related := keepsInstructions_after start steps
  rw [bare, List.nil_append] at related
  constructor
  case created => exact FileUpload.urlsIdentify_of_offered http offered
  case kept =>
    refine ((List.forall₂_and_left _ _).mpr ⟨offered, related⟩).imp fun child file both => ?_
    obtain ⟨offered, kept⟩ := both
    -- A child is prepared when it is created, so there are instructions to keep.
    have there : child.instructions.isSome = true := by
      rw [offered.prepared, Option.isSome_some]
    rw [FileUpload.uploadUrl?, kept there, FileUpload.uploadUrl?]
  case current =>
    intro kept
    have none_yet : ∀ file ∈ start.files, file.Offered registry := by
      simp [bare]
    exact FileUpload.urlsIdentify_of_offered http (offered_after none_yet under kept)
  case shown => exact fun policy now name entry details => url?_shown

/-- An upload URL is made of the base and the identifier of a file and leads back to it, and so does
every URL that a session hands out as long as it runs under one registry. -/
theorem urls_identify_files :
    (∀ base id, Mechanism.UrlParts base id) ∧
    ∀ (registry : Registry) (base : String),
      registry.get? Mechanism.httpPostName = some (.httpPost base) →
      ∀ (created : Instant) (lifetime : Span) (id : SessionId) (project version nonce : String)
        (steps : List Step), (∀ step ∈ steps, step.Under registry) →
        HandsOutUrls base (new created lifetime id project version nonce) steps :=
  ⟨Mechanism.urlParts, fun _ _ http _ _ _ _ _ _ _ under => handsOutUrls http rfl under⟩

/-- Two files are declared, and the second is given another name and then another identifier. -/
theorem pairRun_urls :
    let start := new (.ofParts 1700000000 0) (.ofSeconds 60) ⟨0#128⟩ "demo" "1.0" ""
    let named : List Step := pairRun ++ [.write (.file ⟨2#128⟩ (.filename "demo-1.0-1.zip"))]
    let renumbered : List Step := named ++ [.write (.file ⟨2#128⟩ (.id ⟨3#128⟩))]
    Registry.standard.get? Mechanism.httpPostName = some (.httpPost Mechanism.defaultUrlBase) ∧
      (∀ step ∈ renumbered, step.Under .standard) ∧
      (∀ step ∈ named, step.keepsIdentities = true) ∧
      HandsOutUrls Mechanism.defaultUrlBase start renumbered ∧
      UrlsIdentify Mechanism.defaultUrlBase (start.after named).files ∧
      (start.after renumbered).files.map (·.uploadUrl?) =
        [some "/_/upload/files/00000000-0000-0000-0000-000000000001",
          some "/_/upload/files/00000000-0000-0000-0000-000000000002"] := by
  intro start named renumbered
  have http : Registry.standard.get? Mechanism.httpPostName =
      some (.httpPost Mechanism.defaultUrlBase) := by
    rfl
  have under : ∀ step ∈ renumbered, step.Under .standard := by
    simp [renumbered, named, pairRun, Step.Under, Policy.standard]
  have kept : ∀ step ∈ named, step.keepsIdentities = true := by
    simp [named, pairRun, Step.keepsIdentities]
  have hands (steps : List Step) (under : ∀ step ∈ steps, step.Under .standard) :
      HandsOutUrls Mechanism.defaultUrlBase start steps :=
    urls_identify_files.2 .standard Mechanism.defaultUrlBase http _ _ _ _ _ _ steps under
  have current := (hands named fun step listed =>
    under step (List.mem_append_left _ listed)).current kept
  exact ⟨http, under, kept, hands renumbered under, current, by decide +kernel⟩

end UploadSession

end ReleaseUpload
