import ReleaseUpload.Proofs.Store.Consistency

/-!
The two indexes of a store as whoever looks something up sees them. In every reachable store they
are inverse to each other: each stored session is found by its identifier and by its token, and
nothing else is found.
-/

namespace ReleaseUpload.Store

/-- The store has a session under an identifier. -/
structure Stored (store : Store) (id : SessionId) (handle : Handle) (session : UploadSession) :
    Prop where
  found : store.get? id = some handle
  held : store.record? handle = some session

/-- Every identifier leads to a session, and every token to the one session that has it. -/
structure Inverse (store : Store) : Prop where
  held : ∀ id handle, store.get? id = some handle → ∃ session, Stored store id handle session
  lookup_tokens_iff : ∀ token id, store.tokens.lookup token = some id ↔
    ∃ handle session, Stored store id handle session ∧ session.token = token
  apart : ∀ first one session second two other,
    Stored store first one session → Stored store second two other →
      session.token = other.token → first = second
  find?_eq_some_iff : ∀ token handle, store.find? token = some handle ↔
    ∃ id session, Stored store id handle session ∧ session.token = token
  find?_eq_none_iff : ∀ token, store.find? token = none ↔
    ∀ id handle session, Stored store id handle session → session.token ≠ token

namespace Consistent

variable {store : Store} (consistent : Consistent store)
include consistent

theorem exists_stored {id : SessionId} {handle : Handle} (found : store.get? id = some handle) :
    ∃ session, Stored store id handle session := by
  obtain ⟨token, session, held, seen⟩ :=
    consistent.seen id handle (consistent.get?_eq_some_iff.mp found)
  exact ⟨session, found, held⟩

theorem bears_token {id : SessionId} {handle : Handle} {session : UploadSession}
    (stored : Stored store id handle session) : store.Bears handle session.token := by
  obtain ⟨token, same, held, seen⟩ :=
    consistent.seen id handle (consistent.get?_eq_some_iff.mp stored.found)
  obtain rfl := Option.some.inj (held.symm.trans stored.held)
  exact ⟨same, held, by rw [UploadSession.token_of_seen seen, seen]⟩

theorem lookup_tokens_iff {token : Token} {id : SessionId} :
    store.tokens.lookup token = some id ↔
      ∃ handle session, Stored store id handle session ∧ session.token = token := by
  rw [consistent.lookup_tokens_eq_some_iff]
  constructor
  · rintro ⟨handle, found, session, held, seen⟩
    exact ⟨handle, session, ⟨consistent.get?_eq_some_iff.mpr found, held⟩,
      UploadSession.token_of_seen seen⟩
  · rintro ⟨handle, session, stored, rfl⟩
    exact ⟨handle, consistent.get?_eq_some_iff.mp stored.found, consistent.bears_token stored⟩

theorem find?_eq_some_iff {token : Token} {handle : Handle} :
    store.find? token = some handle ↔
      ∃ id session, Stored store id handle session ∧ session.token = token := by
  rw [find?, Option.bind_eq_some_iff]
  constructor
  · rintro ⟨id, named, found⟩
    obtain ⟨other, session, stored, same⟩ := consistent.lookup_tokens_iff.mp named
    obtain rfl := Option.some.inj (stored.found.symm.trans found)
    exact ⟨id, session, stored, same⟩
  · rintro ⟨id, session, stored, same⟩
    exact ⟨id, consistent.lookup_tokens_iff.mpr ⟨handle, session, stored, same⟩, stored.found⟩

end Consistent

/-- Whatever has happened to a store and to its sessions, its indexes are inverse to each other. -/
theorem inverse_of_reachable {store : Store} (reachable : Reachable store) : Inverse store := by
  have consistent := reachable.consistent
  refine ⟨fun id handle found => consistent.exists_stored found,
    fun token id => consistent.lookup_tokens_iff, ?_,
    fun token handle => consistent.find?_eq_some_iff, ?_⟩
  · intro first one session second two other stored storedToo same
    have named := consistent.lookup_tokens_iff.mpr ⟨one, session, stored, same⟩
    have namedToo := consistent.lookup_tokens_iff.mpr ⟨two, other, storedToo, rfl⟩
    exact Option.some.inj (named.symm.trans namedToo)
  · intro token
    rw [← not_iff_not, ← ne_eq, Option.ne_none_iff_exists']
    simp only [consistent.find?_eq_some_iff]
    push Not
    constructor
    · rintro ⟨handle, id, session, stored, same⟩
      exact ⟨id, handle, session, stored, same⟩
    · rintro ⟨id, handle, session, stored, same⟩
      exact ⟨handle, id, session, stored, same⟩

/-- A new session that has shown its token. -/
def shownSession (id : SessionId) (nonce : String) : UploadSession :=
  (UploadSession.new (.ofParts 1700000000 0) (.ofSeconds 60) id "demo" "1.0" nonce).seeToken

/-- A session is taken in and rewritten from outside. Another one comes and goes, and its nonce is
the one that the first was given too late. -/
def rewrittenRun : List Step :=
  [.insert (shownSession ⟨1#128⟩ "first"),
    .on 0 (.write (.nonce "other")),
    .on 0 (.write (.id ⟨2#128⟩)),
    .insert (shownSession ⟨2#128⟩ "other"),
    .on 0 (.ask .standard (.ofParts 1700000000 0) .cancel),
    .remove ⟨2#128⟩]

theorem rewrittenRun_inverse :
    Reachable (empty.after rewrittenRun) ∧
      (empty.after rewrittenRun).find? (.derive "demo" "1.0" "first") = some 0 ∧
      Inverse (empty.after rewrittenRun) := by
  have reachable : Reachable (empty.after rewrittenRun) := ⟨rewrittenRun, rfl⟩
  exact ⟨reachable, by decide +kernel, inverse_of_reachable reachable⟩

end ReleaseUpload.Store
