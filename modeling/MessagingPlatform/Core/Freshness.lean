import MessagingPlatform.Core.Interleaving

/-!
# Fresh values and their single use

A supply hands out values that it has never handed out before.  If a program
uses a value only after its own history drew it from the supply, and never
twice, then no value is used twice in a whole run, whatever the interleaving.
-/

namespace MessagingPlatform.Freshness

open Program
open Interleaving

variable {State Op : Type} {Res : Op → Type} {Choice Env Req Out : Type}
variable {Value : Type}

/-- The values that a log mentions through `extract`, newest first. -/
def mentioned (extract : Entry Op Res → Option Value)
    (log : List (Event State Op Res)) : List Value :=
  log.filterMap fun event => extract event.entry

@[simp]
theorem mentioned_nil (extract : Entry Op Res → Option Value) :
    mentioned extract ([] : List (Event State Op Res)) = [] := rfl

theorem mentioned_cons (extract : Entry Op Res → Option Value)
    (event : Event State Op Res) (log : List (Event State Op Res)) :
    mentioned extract (event :: log) =
      (extract event.entry).toList ++ mentioned extract log := by
  cases hextract : extract event.entry with
  | none | some => simp [mentioned, hextract]

theorem mem_mentioned {extract : Entry Op Res → Option Value}
    {log : List (Event State Op Res)} {value : Value} :
    value ∈ mentioned extract log ↔
      ∃ event ∈ log, extract event.entry = some value := by
  simp [mentioned]

theorem mentioned_map {Image : Type} (transform : Value → Image)
    (extract : Entry Op Res → Option Value)
    (log : List (Event State Op Res)) :
    mentioned (fun entry => (extract entry).map transform) log =
      (mentioned extract log).map transform := by
  simp [mentioned, List.map_filterMap]

/-- A value mentioned once comes from one event. -/
theorem event_unique {extract : Entry Op Res → Option Value}
    {log : List (Event State Op Res)} {left right : Event State Op Res}
    {value : Value} (hnodup : (mentioned extract log).Nodup)
    (hleft : left ∈ log) (hright : right ∈ log)
    (hleftValue : extract left.entry = some value)
    (hrightValue : extract right.entry = some value) : left = right := by
  induction log with
  | nil => cases hleft
  | cons event rest ih =>
      rw [mentioned_cons, List.nodup_append] at hnodup
      obtain ⟨-, hrest, hdisjoint⟩ := hnodup
      have hapart : ∀ other ∈ rest, extract event.entry = some value →
          extract other.entry = some value → False := by
        intro other hother heventValue hotherValue
        exact hdisjoint value (by simp [heventValue]) value
          (mem_mentioned.mpr ⟨other, hother, hotherValue⟩) rfl
      rcases List.mem_cons.mp hleft with hleftHead | hleftRest
      · rcases List.mem_cons.mp hright with hrightHead | hrightRest
        · rw [hleftHead, hrightHead]
        · rw [hleftHead] at hleftValue
          exact (hapart right hrightRest hleftValue hrightValue).elim
      · rcases List.mem_cons.mp hright with hrightHead | hrightRest
        · rw [hrightHead] at hrightValue
          exact (hapart left hleftRest hrightValue hleftValue).elim
        · exact ih hrest hleftRest hrightRest

section Positions

variable {note : Event State Op Res → List (Event State Op Res) → Option Value}

/-- Notes on the events of a log, each made from the event and the log before
it, newest first. -/
def annotated
    (note : Event State Op Res → List (Event State Op Res) → Option Value) :
    List (Event State Op Res) → List Value
  | [] => []
  | event :: older => (note event older).toList ++ annotated note older

theorem mem_annotated {log : List (Event State Op Res)} {value : Value} :
    value ∈ annotated note log ↔ ∃ newer event older,
      log = newer ++ event :: older ∧ note event older = some value := by
  induction log with
  | nil => simp [annotated]
  | cons latest rest ih =>
      rw [annotated, List.mem_append, Option.mem_toList, ih]
      constructor
      · rintro (hlatest | ⟨newer, event, older, rfl, hnote⟩)
        · exact ⟨[], latest, rest, rfl, hlatest⟩
        · exact ⟨latest :: newer, event, older, rfl, hnote⟩
      · rintro ⟨newer, event, older, hlog, hnote⟩
        cases newer with
        | nil =>
            obtain ⟨rfl, rfl⟩ := List.cons.inj hlog
            exact Or.inl hnote
        | cons first newer =>
            obtain ⟨-, hrest⟩ := List.cons.inj hlog
            exact Or.inr ⟨newer, event, older, hrest, hnote⟩

end Positions

/-- A supply of fresh values: the state lists what was handed out. -/
structure Supply (machine : Machine State Op Res Choice Env Req Out)
    (Value : Type) where
  issued : State → List Value
  issue : Entry Op Res → Option Value
  performs : ∀ {op choice before response after},
    machine.perform op choice before = some (response, after) →
      issued after = (issue ⟨op, response⟩).toList ++ issued before ∧
        ∀ value, issue ⟨op, response⟩ = some value → value ∉ issued before
  advances : ∀ {change before after},
    machine.advance change before = some after → issued after = issued before

variable {machine : Machine State Op Res Choice Env Req Out}
variable {admissible : Pool State Op Res Req Out → Label Choice Env Req → Prop}
variable {store : State} {pool : Pool State Op Res Req Out}

/-- The log accounts for everything handed out, and nothing is handed out
twice. -/
theorem Supply.issued_eq (supply : Supply machine Value)
    (hempty : supply.issued store = [])
    (hreach : machine.Reach admissible (.initial store) pool) :
    supply.issued pool.store = mentioned supply.issue pool.log ∧
      (mentioned supply.issue pool.log).Nodup := by
  refine Machine.Reach.invariant (I := fun pool =>
    supply.issued pool.store = mentioned supply.issue pool.log ∧
      (mentioned supply.issue pool.log).Nodup) ?_ ?_ ?_ ?_ hreach
  · exact ⟨hempty, List.nodup_nil⟩
  · intro pool id req _ ih _ _
    exact ih
  · intro pool id choice call op next response after _ ih _ _ hperform _
    obtain ⟨hissued, hfresh⟩ := supply.performs hperform
    constructor
    · calc
        supply.issued after =
            (supply.issue ⟨op, response⟩).toList ++
              supply.issued pool.store := hissued
        _ = (supply.issue ⟨op, response⟩).toList ++
              mentioned supply.issue pool.log := by rw [ih.1]
        _ = mentioned supply.issue
              (pool.execCall id call op next response after).log := by
            rw [Pool.execCall, mentioned_cons]
    · rw [Pool.execCall, mentioned_cons]
      cases hissue : supply.issue ⟨op, response⟩ with
      | none => exact ih.2
      | some value =>
          have hnew := hfresh value hissue
          rw [ih.1] at hnew
          exact List.nodup_cons.mpr ⟨hnew, ih.2⟩
  · intro pool change after _ ih hadvance _
    exact ⟨(supply.advances hadvance).trans ih.1, ih.2⟩

section Uses

variable {guard : Req → History Op Res → Op → Prop}
variable {post : Req → History Op Res → Out → Prop}
variable {issue uses : Entry Op Res → Option Value}

/-- Values drawn by a call before it uses them, at most once, are used at most
once overall. -/
theorem uses_nodup
    (hprogram : ∀ req,
      Sat (guard req) (post req) (machine.program req) [])
    (hissue : ∀ pool, machine.Reach admissible (.initial store) pool →
      (mentioned issue pool.log).Nodup)
    (hdrawn : ∀ req older op response value, guard req older op →
      uses ⟨op, response⟩ = some value →
        ∃ entry ∈ older, issue entry = some value)
    (honce : ∀ req older op response value, Conforms (guard req) older →
      guard req older op → uses ⟨op, response⟩ = some value →
        ∀ entry ∈ older, uses entry ≠ some value)
    (hreach : machine.Reach admissible (.initial store) pool) :
    (mentioned uses pool.log).Nodup := by
  refine Machine.Reach.invariant (I := fun pool =>
    (mentioned uses pool.log).Nodup) ?_ ?_ ?_ ?_ hreach
  · exact List.nodup_nil
  · intro pool id req _ ih _ _
    exact ih
  · intro pool id choice call op next response after hpool ih hcall hrest _ _
    rw [Pool.execCall, mentioned_cons]
    cases huse : uses ⟨op, response⟩ with
    | none => exact ih
    | some value =>
        refine List.nodup_cons.mpr ⟨?_, ih⟩
        intro hearlier
        have hguard := hpool.guard_next hprogram hcall hrest
        have hconforms := (hpool.wellGuarded hprogram hcall).1
        obtain ⟨event, hevent, heventUse⟩ := mem_mentioned.mp hearlier
        obtain ⟨earlier, hearlierCall, hsuffix, heventGuard⟩ :=
          hpool.event_guard hprogram hevent
        -- The earlier use drew the value too, so it was made by the same call.
        obtain ⟨drawn, hdrawnOlder, hdrawnValue⟩ :=
          hdrawn _ _ _ _ value hguard huse
        obtain ⟨source, hsource, hsourceCall, hsourceEntry⟩ :=
          hpool.event_of_mem hcall hdrawnOlder
        obtain ⟨drawn', hdrawnOlder', hdrawnValue'⟩ :=
          hdrawn _ _ _ _ value heventGuard heventUse
        obtain ⟨source', hsource', hsourceCall', hsourceEntry'⟩ :=
          hpool.event_of_mem hearlierCall
            (hsuffix.subset (List.mem_cons_of_mem _ hdrawnOlder'))
        have hsame := event_unique (hissue pool hpool) hsource hsource'
          (hsourceEntry ▸ hdrawnValue) (hsourceEntry' ▸ hdrawnValue')
        have hid : event.call = id := by
          rw [← hsourceCall, ← hsourceCall', hsame]
        rw [hid, hcall, Option.some.injEq] at hearlierCall
        subst earlier
        exact honce _ _ _ _ value hconforms hguard huse event.entry
          (hsuffix.subset List.mem_cons_self) heventUse
  · intro pool change after _ ih _ _
    exact ih

end Uses

end MessagingPlatform.Freshness
