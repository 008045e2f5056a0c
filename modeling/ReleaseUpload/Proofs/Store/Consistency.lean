import Mathlib.Data.List.Nodup
import ReleaseUpload.Proofs.Store.Runs

/-!
The invariant of a store. An insertion fixes the token of its session, and nothing that happens to
the session afterwards can change it. So every step of a store keeps its two indexes `Consistent`,
whatever the sessions do in between.
-/

namespace ReleaseUpload.Store

theorem lookup_eq_some_iff_mem {Key Value : Type} [DecidableEq Key]
    {entries : List (Key × Value)} (distinct : (entries.map (·.1)).Nodup) {key : Key}
    {value : Value} : entries.lookup key = some value ↔ (key, value) ∈ entries := by
  rw [List.lookup_eq_some_iff, List.mem_iff_append]
  constructor
  · rintro ⟨before, later, rfl, -⟩
    exact ⟨before, later, rfl⟩
  · rintro ⟨before, later, rfl⟩
    refine ⟨before, later, rfl, ?_⟩
    rw [List.map_append, List.map_cons, List.nodup_middle, List.nodup_cons] at distinct
    intro entry found
    rw [bne_iff_ne]
    intro same
    exact distinct.1 (List.mem_append_left _ (List.mem_map.mpr ⟨entry, found, same.symm⟩))

theorem nodup_map_append_of_lookup {Key Value : Type} [DecidableEq Key]
    {entries : List (Key × Value)} (distinct : (entries.map (·.1)).Nodup) {key : Key}
    (free : entries.lookup key = none) (value : Value) :
    ((entries ++ [(key, value)]).map (·.1)).Nodup := by
  rw [List.map_append, List.nodup_append]
  refine ⟨distinct, List.nodup_singleton key, ?_⟩
  intro taken listed other single
  obtain ⟨entry, found, rfl⟩ := List.mem_map.mp listed
  rw [List.map_singleton, List.mem_singleton] at single
  have apart := List.lookup_eq_none_iff.mp free entry found
  rw [bne_iff_ne] at apart
  exact single ▸ apart.symm

theorem record?_inserted (store : Store) (session : UploadSession) (handle : Handle) :
    (store.inserted session).record? handle =
      if handle = store.records.length then some session.seeToken else store.record? handle := by
  rw [record?, inserted, List.getElem?_append, record?]
  split_ifs with inside last last
  · exact absurd last (Nat.ne_of_lt inside)
  · rfl
  · rw [last, Nat.sub_self]
    rfl
  · have outside : store.records.length < handle :=
      Nat.lt_of_le_of_ne (Nat.le_of_not_lt inside) (Ne.symm last)
    rw [List.getElem?_eq_none (Nat.le_of_lt outside), List.getElem?_eq_none]
    exact Nat.sub_pos_of_lt outside

/-- The store with all sessions under some identifiers taken out of both indexes. -/
def without (store : Store) (ids : List SessionId) : Store :=
  { store with
    sessions := store.sessions.filter (·.1 ∉ ids)
    tokens := store.tokens.filter (·.2 ∉ ids) }

theorem without_cons (store : Store) (id : SessionId) (ids : List SessionId) :
    store.without (id :: ids) = (store.without [id]).without ids := by
  simp only [without, List.filter_filter, List.mem_cons, List.not_mem_nil, or_false, not_or,
    Bool.decide_and, Bool.and_comm]

/-- The token of the session behind the handle has been seen. -/
def Bears (store : Store) (handle : Handle) (token : Token) : Prop :=
  ∃ session, store.record? handle = some session ∧ session.seenToken = some token

theorem Bears.unique {store : Store} {handle : Handle} {first second : Token}
    (one : store.Bears handle first) (two : store.Bears handle second) : first = second := by
  obtain ⟨session, held, seen⟩ := one
  obtain ⟨same, found, seenToo⟩ := two
  obtain rfl := Option.some.inj (held.symm.trans found)
  exact Option.some.inj (seen.symm.trans seenToo)

/-- The token of a session that has been inserted stays. -/
theorem Bears.apply {store : Store} {handle : Handle} {token : Token}
    (bears : store.Bears handle token) (step : Step) : (store.apply step).Bears handle token := by
  obtain ⟨session, held, seen⟩ := bears
  obtain ⟨steps, found⟩ := record?_apply held step
  exact ⟨_, found, UploadSession.after_seenToken seen steps⟩

/-- Every session of the store has a fixed token, and the tokens are those of the sessions. -/
structure Consistent (store : Store) : Prop where
  ids : (store.sessions.map (·.1)).Nodup
  tokens : (store.tokens.map (·.1)).Nodup
  seen : ∀ id handle, (id, handle) ∈ store.sessions → ∃ token, store.Bears handle token
  mem_tokens_iff : ∀ token id, (token, id) ∈ store.tokens ↔
    ∃ handle, (id, handle) ∈ store.sessions ∧ store.Bears handle token

namespace Consistent

theorem empty : Consistent Store.empty where
  ids := List.nodup_nil
  tokens := List.nodup_nil
  seen id handle found := by cases found
  mem_tokens_iff token id := by
    constructor
    · intro found
      cases found
    · rintro ⟨handle, found, -⟩
      cases found

section

variable {store : Store} (consistent : Consistent store)
include consistent

theorem get?_eq_some_iff {id : SessionId} {handle : Handle} :
    store.get? id = some handle ↔ (id, handle) ∈ store.sessions :=
  lookup_eq_some_iff_mem consistent.ids

theorem lookup_tokens_eq_some_iff {token : Token} {id : SessionId} :
    store.tokens.lookup token = some id ↔
      ∃ handle, (id, handle) ∈ store.sessions ∧ store.Bears handle token :=
  (lookup_eq_some_iff_mem consistent.tokens).trans (consistent.mem_tokens_iff token id)

theorem handle_unique {id : SessionId} {first second : Handle}
    (one : (id, first) ∈ store.sessions) (two : (id, second) ∈ store.sessions) :
    first = second :=
  Option.some.inj ((consistent.get?_eq_some_iff.mpr one).symm.trans
    (consistent.get?_eq_some_iff.mpr two))

/-- No two sessions of a store have one token. -/
theorem id_unique {token : Token} {first second : SessionId} {one two : Handle}
    (found : (first, one) ∈ store.sessions) (bears : store.Bears one token)
    (foundToo : (second, two) ∈ store.sessions) (bearsToo : store.Bears two token) :
    first = second :=
  Option.some.inj ((consistent.lookup_tokens_eq_some_iff.mpr ⟨one, found, bears⟩).symm.trans
    (consistent.lookup_tokens_eq_some_iff.mpr ⟨two, foundToo, bearsToo⟩))

/-- Changes to the records keep the indexes right as long as no token is lost. -/
theorem of_bears {later : Store} (sessions : later.sessions = store.sessions)
    (tokens : later.tokens = store.tokens)
    (kept : ∀ handle token, store.Bears handle token → later.Bears handle token) :
    Consistent later where
  ids := by
    rw [sessions]
    exact consistent.ids
  tokens := by
    rw [tokens]
    exact consistent.tokens
  seen id handle found := by
    rw [sessions] at found
    obtain ⟨token, bears⟩ := consistent.seen id handle found
    exact ⟨token, kept handle token bears⟩
  mem_tokens_iff token id := by
    rw [sessions, tokens, consistent.mem_tokens_iff]
    refine exists_congr fun handle => and_congr_right fun found => ⟨kept handle token, ?_⟩
    intro bears
    obtain ⟨old, bearsOld⟩ := consistent.seen id handle found
    rwa [bears.unique (kept handle old bearsOld)]

theorem lt_of_mem {id : SessionId} {handle : Handle} (found : (id, handle) ∈ store.sessions) :
    handle < store.records.length := by
  obtain ⟨token, session, held, -⟩ := consistent.seen id handle found
  exact (List.getElem?_eq_some_iff.mp held).1

theorem inserted {session : UploadSession}
    (free : store.tokens.lookup session.token = none) (fresh : store.get? session.id = none) :
    Consistent (store.inserted session) := by
  have older : ∀ id handle token, (id, handle) ∈ store.sessions →
      ((store.inserted session).Bears handle token ↔ store.Bears handle token) := by
    intro id handle token found
    rw [Bears, record?_inserted, if_neg (Nat.ne_of_lt (consistent.lt_of_mem found)), Bears]
  have newest : ∀ token, (store.inserted session).Bears store.records.length token ↔
      token = session.token := by
    intro token
    rw [Bears, record?_inserted, if_pos rfl]
    constructor
    · rintro ⟨same, held, seen⟩
      obtain rfl := Option.some.inj held
      exact (Option.some.inj seen).symm
    · rintro rfl
      exact ⟨_, rfl, rfl⟩
  refine ⟨nodup_map_append_of_lookup consistent.ids fresh _,
    nodup_map_append_of_lookup consistent.tokens free _, ?_, ?_⟩
  · intro id handle found
    rcases List.mem_append.mp found with found | found
    · obtain ⟨token, bears⟩ := consistent.seen id handle found
      exact ⟨token, (older id handle token found).mpr bears⟩
    · obtain ⟨rfl, rfl⟩ := Prod.mk.inj (List.mem_singleton.mp found)
      exact ⟨_, (newest _).mpr rfl⟩
  · intro token id
    rw [Store.inserted, List.mem_append, List.mem_singleton, consistent.mem_tokens_iff]
    constructor
    · rintro (⟨handle, found, bears⟩ | same)
      · exact ⟨handle, List.mem_append_left _ found, (older id handle token found).mpr bears⟩
      · obtain ⟨rfl, rfl⟩ := Prod.mk.inj same
        exact ⟨_, List.mem_append_right _ List.mem_cons_self, (newest _).mpr rfl⟩
    · rintro ⟨handle, found, bears⟩
      rcases List.mem_append.mp found with found | found
      · exact .inl ⟨handle, found, (older id handle token found).mp bears⟩
      · obtain ⟨rfl, rfl⟩ := Prod.mk.inj (List.mem_singleton.mp found)
        exact .inr (by rw [(newest token).mp bears])

/-! Removal. -/

theorem without (ids : List SessionId) : Consistent (store.without ids) where
  ids := consistent.ids.sublist (List.filter_sublist.map _)
  tokens := consistent.tokens.sublist (List.filter_sublist.map _)
  seen id handle found := consistent.seen id handle (List.mem_filter.mp found).1
  mem_tokens_iff token id := by
    simp only [Store.without, List.mem_filter, consistent.mem_tokens_iff]
    constructor
    · rintro ⟨⟨handle, found, bears⟩, kept⟩
      exact ⟨handle, ⟨found, kept⟩, bears⟩
    · rintro ⟨handle, ⟨found, kept⟩, bears⟩
      exact ⟨⟨handle, found, bears⟩, kept⟩

theorem drop_eq {id : SessionId} {handle : Handle} (found : (id, handle) ∈ store.sessions) :
    store.drop (id, handle) = store.without [id] := by
  obtain ⟨token, session, held, seen⟩ := consistent.seen id handle found
  -- Only one token leads to an identifier, so testing the token as well makes no difference.
  have tokens : (store.tokens.filter fun pair => ¬(pair.1 = session.token ∧ pair.2 = id)) =
      store.tokens.filter (·.2 ∉ [id]) := by
    apply List.filter_congr
    rintro ⟨other, id'⟩ listed
    rw [decide_eq_decide, not_iff_not, List.mem_singleton, and_iff_right_iff_imp,
      UploadSession.token_of_seen seen]
    rintro rfl
    obtain ⟨handle', foundToo, bears⟩ := (consistent.mem_tokens_iff other id').mp listed
    rw [consistent.handle_unique foundToo found] at bears
    exact bears.unique ⟨session, held, seen⟩
  simp only [Store.drop, held, tokens, Store.without, List.mem_singleton, ne_eq]

theorem dropAll_eq {entries : List Entry} (held : ∀ entry ∈ entries, entry ∈ store.sessions)
    (distinct : (entries.map (·.1)).Nodup) :
    store.dropAll entries = store.without (entries.map (·.1)) := by
  induction entries generalizing store with
  | nil => simp [dropAll, Store.without]
  | cons entry rest inductionHypothesis =>
    obtain ⟨apart, distinct⟩ := List.nodup_cons.mp distinct
    have first := consistent.drop_eq (held entry List.mem_cons_self)
    have others : ∀ other ∈ rest, other ∈ (store.without [entry.1]).sessions := by
      intro other listed
      rw [Store.without, List.mem_filter]
      refine ⟨held other (List.mem_cons_of_mem _ listed), ?_⟩
      have ne : other.1 ≠ entry.1 :=
        fun same => apart (List.mem_map.mpr ⟨other, listed, same⟩)
      simpa using ne
    have later := inductionHypothesis (consistent.without [entry.1]) others distinct
    rw [dropAll, List.foldl_cons, first, List.map_cons,
      without_cons store entry.1 (rest.map (·.1))]
    exact later

theorem evictable_nodup (visit : Visit) (now : Instant) (limit : Nat) :
    ((store.evictable visit now limit).map (·.1)).Nodup := by
  have arranged := ((visit.perm store.sessions).map (·.1)).nodup_iff.mpr consistent.ids
  exact arranged.sublist (((List.take_sublist _ _).trans List.filter_sublist).map _)

theorem dropAll_evictable (visit : Visit) (now : Instant) (limit : Nat) :
    store.dropAll (store.evictable visit now limit) =
      store.without ((store.evictable visit now limit).map (·.1)) := by
  apply consistent.dropAll_eq
  · intro entry listed
    exact (visit.perm _).mem_iff.mp (List.mem_filter.mp (List.mem_of_mem_take listed)).1
  · exact consistent.evictable_nodup visit now limit

/-! Steps and runs. -/

theorem reapAll (now : Instant) (handles : List Handle) :
    Consistent (store.reapAll now handles) := by
  induction handles generalizing store with
  | nil => exact consistent
  | cons handle rest inductionHypothesis =>
    apply inductionHypothesis
    exact consistent.of_bears rfl rfl fun _ _ bears => bears.apply (.on handle (.reap now))

theorem apply (step : Step) : Consistent (store.apply step) := by
  cases step with
  | insert session =>
    rw [apply_insert]
    split_ifs with free
    · exact consistent.inserted (Option.isNone_iff_eq_none.mp free.1)
        (Option.isNone_iff_eq_none.mp free.2)
    · exact consistent
  | remove id =>
    rw [apply_remove]
    split
    · exact consistent
    · rename_i handle held
      rw [consistent.drop_eq (consistent.get?_eq_some_iff.mp held)]
      exact consistent.without [id]
  | evictTerminal visit now limit =>
    rw [apply_evictTerminal, consistent.dropAll_evictable]
    exact consistent.without _
  | expired visit now limit =>
    rw [apply_expired]
    exact consistent
  | sweep listing eviction settings now =>
    rw [apply_sweep, swept]
    have reaped := consistent.reapAll now (store.expired listing now settings.batchSize.toNat)
    split
    · rw [reaped.dropAll_evictable]
      exact reaped.without _
    · exact reaped
  | on handle step => exact consistent.of_bears rfl rfl fun _ _ bears => bears.apply (.on handle step)

theorem after (steps : List Step) : Consistent (store.after steps) := by
  induction steps generalizing store with
  | nil => exact consistent
  | cons step rest inductionHypothesis => exact inductionHypothesis (consistent.apply step)

end

end Consistent

theorem Reachable.consistent {store : Store} (reachable : Reachable store) : Consistent store :=
  reachable.induction .empty fun _ step consistent => consistent.apply step

end ReleaseUpload.Store
