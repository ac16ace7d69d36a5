import Mathlib

/-!
# Nested maps from flat ones

A flat map from paths to values is turned into a nested one by putting the
values in one after the other.  When a value stands where a path has to go on,
that key of the path is skipped and the rest of the path goes on where it is,
so the result can depend on the order of the entries.  It does not as long as
no path of one key is the beginning of another path.
-/

namespace MessagingPlatform.NestedMap

variable {Key Value : Type}

/-- A value, or a map with a node for some keys. -/
inductive Node (Key Value : Type) where
  | leaf (value : Value)
  | branch (fields : Key → Option (Node Key Value))

abbrev Fields (Key Value : Type) := Key → Option (Node Key Value)

/-- The map at a place, empty if there is none yet. -/
def inner : Option (Node Key Value) → Fields Key Value
  | some (.branch fields) => fields
  | _ => fun _ => none

/-- No path of one key is the beginning of another path. -/
def Apart (entries : List (List Key × Value)) : Prop :=
  ∀ entry ∈ entries, ∀ other ∈ entries, ∀ key rest,
    entry.1 = [key] → other.1 = key :: rest → rest = []

theorem Apart.of_subset {entries fewer : List (List Key × Value)}
    (hapart : Apart entries) (hsubset : fewer ⊆ entries) : Apart fewer :=
  fun entry hentry other hother =>
    hapart entry (hsubset hentry) other (hsubset hother)

variable [DecidableEq Key]

/-- Put a value at a path. -/
def put : List Key → Value → Fields Key Value → Fields Key Value
  | [], _, fields => fields
  | [key], value, fields => Function.update fields key (some (.leaf value))
  | key :: next :: rest, value, fields =>
      match fields key with
      | some (.leaf _) => put (next :: rest) value fields
      | found => Function.update fields key
          (some (.branch (put (next :: rest) value (inner found))))

def unflatten (entries : List (List Key × Value)) : Fields Key Value :=
  entries.foldl (fun fields entry => put entry.1 entry.2 fields) fun _ => none

/-- The rest of a path that starts with a key. -/
def after (key : Key) : List Key → Option (List Key)
  | [] => none
  | first :: rest => if first = key then some rest else none

/-- The entries under a key. -/
def below (key : Key) (entries : List (List Key × Value)) :
    List (List Key × Value) :=
  entries.filterMap fun entry =>
    (after key entry.1).map fun rest => (rest, entry.2)

/-- What the entries under a key amount to. -/
def node (under : List (List Key × Value)) : Option (Node Key Value) :=
  under.getLast?.map fun last =>
    match last.1 with
    | [] => .leaf last.2
    | _ :: _ => .branch (unflatten under)

variable {entries : List (List Key × Value)} {key : Key} {value : Value}

theorem mem_below {rest : List Key} :
    (rest, value) ∈ below key entries ↔ (key :: rest, value) ∈ entries := by
  simp only [below, List.mem_filterMap, Option.map_eq_some_iff,
    Prod.mk.injEq, Prod.exists]
  constructor
  · rintro ⟨path, found, hentry, rest, hafter, rfl, rfl⟩
    cases path with
    | nil => cases hafter
    | cons first others =>
        simp only [after, Option.ite_none_right_eq_some,
          Option.some.injEq] at hafter
        obtain ⟨rfl, rfl⟩ := hafter
        exact hentry
  · intro hentry
    exact ⟨key :: rest, value, hentry, rest, by simp [after], rfl, rfl⟩

/-- A value at a key has the key as its path. -/
theorem mem_of_node_eq_leaf
    (hnode : node (below key entries) = some (.leaf value)) :
    ([key], value) ∈ entries := by
  rw [node, Option.map_eq_some_iff] at hnode
  obtain ⟨⟨under, found⟩, hlast, hleaf⟩ := hnode
  cases under with
  | cons next rest => cases hleaf
  | nil =>
      cases hleaf
      exact mem_below.mp (List.mem_of_getLast? hlast)

/-- An entry under a key is the last one there, or another one is. -/
theorem exists_last_below {rest : List Key}
    (hmem : (key :: rest, value) ∈ entries) :
    ∃ under found, (below key entries).getLast? = some (under, found) ∧
      (key :: under, found) ∈ entries := by
  have hne : below key entries ≠ [] :=
    List.ne_nil_of_mem (mem_below.mpr hmem)
  have hlast := List.getLast?_eq_some_getLast hne
  exact ⟨_, _, hlast, mem_below.mp (List.mem_of_getLast? hlast)⟩

theorem below_concat_of_ne {path : List Key} (hpath : after key path = none) :
    below key (entries ++ [(path, value)]) = below key entries := by
  simp [below, hpath]

theorem below_concat_cons (rest : List Key) :
    below key (entries ++ [(key :: rest, value)]) =
      below key entries ++ [(rest, value)] := by
  simp [below, after]

theorem unflatten_concat (path : List Key) :
    unflatten (entries ++ [(path, value)]) =
      put path value (unflatten entries) := by
  rw [unflatten, List.foldl_append]
  rfl

/-- A path goes on into the map at its first key. -/
theorem put_cons_cons {next : Key} {rest : List Key}
    {fields : Fields Key Value}
    (hplace : ∀ found, fields key ≠ some (.leaf found)) :
    put (key :: next :: rest) value fields = Function.update fields key
      (some (.branch (put (next :: rest) value (inner (fields key))))) := by
  rw [put]
  split
  · next found hfound => exact absurd hfound (hplace found)
  · rfl

/-- The map at a place without a value is the one of the entries under it. -/
theorem inner_unflatten
    (hnode : ∀ key, unflatten entries key = node (below key entries))
    (hplace : ∀ found, unflatten entries key ≠ some (.leaf found)) :
    inner (unflatten entries key) = unflatten (below key entries) := by
  rw [hnode key] at hplace ⊢
  cases hlast : (below key entries).getLast? with
  | none =>
      rw [List.getLast?_eq_none_iff] at hlast
      rw [hlast]
      rfl
  | some last =>
      obtain ⟨under, value⟩ := last
      cases under with
      | nil => exact absurd (by rw [node, hlast]; rfl) (hplace value)
      | cons next rest =>
          rw [node, hlast]
          rfl

/-- The node at a key is made of the entries under it. -/
theorem unflatten_apply (hapart : Apart entries) (key : Key) :
    unflatten entries key = node (below key entries) := by
  induction entries using List.reverseRecOn generalizing key with
  | nil => rfl
  | append_singleton entries last ih =>
      obtain ⟨path, value⟩ := last
      have hearlier := ih (hapart.of_subset (List.subset_append_left _ _))
      rw [unflatten_concat]
      cases path with
      | nil =>
          rw [below_concat_of_ne rfl]
          exact hearlier key
      | cons first rest =>
          -- A value where the path goes on would be the beginning of it.
          have hplace : rest ≠ [] → ∀ found,
              unflatten entries first ≠ some (.leaf found) := by
            intro hrest found hfound
            rw [hearlier first] at hfound
            have hmem := mem_of_node_eq_leaf hfound
            exact hrest (hapart _ (List.mem_append_left _ hmem)
              (first :: rest, value) (by simp) first rest rfl rfl)
          by_cases hfirst : first = key
          · subst hfirst
            rw [below_concat_cons]
            cases rest with
            | nil => simp [put, node]
            | cons next others =>
                rw [put_cons_cons (hplace (by simp)), Function.update_self,
                  inner_unflatten hearlier (hplace (by simp))]
                simp [node, unflatten_concat]
          · rw [below_concat_of_ne (by simp [after, hfirst]), ← hearlier key]
            cases rest with
            | nil => exact Function.update_of_ne (Ne.symm hfirst) _ _
            | cons next others =>
                rw [put_cons_cons (hplace (by simp))]
                exact Function.update_of_ne (Ne.symm hfirst) _ _

/-- Nothing is at a key that no path starts with. -/
theorem unflatten_eq_none (hapart : Apart entries)
    (habsent : ∀ rest value, (key :: rest, value) ∉ entries) :
    unflatten entries key = none := by
  have hbelow : below key entries = [] :=
    List.eq_nil_iff_forall_not_mem.mpr fun entry hentry =>
      habsent entry.1 entry.2 (mem_below.mp hentry)
  rw [unflatten_apply hapart, hbelow]
  rfl

/-- The value at a key that is a path of its own. -/
theorem unflatten_eq_leaf (hapart : Apart entries)
    (hmem : ([key], value) ∈ entries)
    (honly : ∀ other, ([key], other) ∈ entries → other = value) :
    unflatten entries key = some (.leaf value) := by
  rw [unflatten_apply hapart, node]
  obtain ⟨under, found, hlast, hfound⟩ := exists_last_below hmem
  obtain rfl : under = [] :=
    hapart _ hmem _ hfound key under rfl rfl
  rw [hlast, Option.map_some, honly found hfound]

/-- The map at a key that longer paths start with. -/
theorem unflatten_eq_branch (hapart : Apart entries) {next : Key}
    {rest : List Key} (hmem : (key :: next :: rest, value) ∈ entries) :
    unflatten entries key = some (.branch (unflatten (below key entries))) := by
  rw [unflatten_apply hapart, node]
  obtain ⟨under, found, hlast, hfound⟩ := exists_last_below hmem
  cases under with
  | nil =>
      have hrest := hapart _ hfound _ hmem key (next :: rest) rfl rfl
      cases hrest
  | cons first others => rw [hlast, Option.map_some]

end MessagingPlatform.NestedMap
