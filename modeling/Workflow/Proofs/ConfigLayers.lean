import Workflow.Config.Discovery
import Workflow.Proofs.JsonValue
/-! # Configuration layers form a monoid

A configuration layer gives some sections and some handlers by name.  Merging a layer on top
replaces the sections it gives and adds or replaces its handlers by name (`Settings.merge`).
A configuration as the program builds it holds its handlers as a map: in name order, each
name once (`Settings.WellFormed`); the reader, the empty configuration and merging all keep
that form.  On such configurations:

* merging is associative, the empty configuration is neutral on both sides, and merging a
  configuration with itself changes nothing (`Settings.merge_assoc`, `Settings.empty_merge`,
  `Settings.merge_empty`, `Settings.merge_self`);
* a handler of the merge is the later layer's when it has one, else the earlier layer's
  (`Settings.lookup_merge`);
* so loading the layers gives the empty configuration merged with the user layer and then
  the project layer, a layer that is missing or cannot be read counting as the empty one
  (`loadWithOptions_settings`), and each layer adds at most one warning, exactly when its
  file exists and cannot be read or parsed (`loadLayer_warnings`).

Handlers are compared through `List.lookup`: two lists in name order that bind every name
alike are equal (`NamesAscending.ext`), which turns every law about handlers into a law
about `Option.or`.
-/

namespace Workflow.Config

open Decode.TextDecode.mapEntries

/-! ### Bindings in name order -/

section Bindings

variable {α : Type}

/-- Bindings in the form of a map: names strictly ascending, so each name once. -/
def NamesAscending (kvs : List (String × α)) : Prop := kvs.Pairwise (fun a b => a.1 < b.1)

@[simp] theorem namesAscending_nil : NamesAscending ([] : List (String × α)) := List.Pairwise.nil

theorem insertSorted_eq_put (k : String) (v : α) (kvs : List (String × α)) :
    insertSorted k v kvs = put k v kvs := by
  induction kvs with
  | nil => rfl
  | cons p kvs ih =>
    obtain ⟨k', v'⟩ := p
    simp only [insertSorted, put, ih, beq_iff_eq]

theorem NamesAscending.insertSorted {kvs : List (String × α)} (h : NamesAscending kvs)
    (k : String) (v : α) : NamesAscending (insertSorted k v kvs) := by
  rw [insertSorted_eq_put]
  exact pairwise_put h k v

theorem lookup_cons_of_ne {k k' : String} {v : α} {kvs : List (String × α)} (h : k' ≠ k) :
    ((k, v) :: kvs).lookup k' = kvs.lookup k' := by
  simp [List.lookup_cons, beq_false_of_ne h]

theorem lookup_eq_none_of_lt {k : String} {kvs : List (String × α)} (h : ∀ p ∈ kvs, k < p.1) :
    kvs.lookup k = none := by
  rw [List.lookup_eq_none_iff]
  intro p hp
  exact bne_iff_ne.mpr (String.ne_of_lt (h p hp))

theorem lookup_insertSorted (k k' : String) (v : α) (kvs : List (String × α)) :
    (insertSorted k v kvs).lookup k' = if k' = k then some v else kvs.lookup k' := by
  induction kvs with
  | nil =>
    rw [insertSorted]
    by_cases h : k' = k
    · subst h
      rw [if_pos rfl, List.lookup_cons_self]
    · rw [if_neg h, lookup_cons_of_ne h]
  | cons p kvs ih =>
    obtain ⟨k₀, v₀⟩ := p
    by_cases hk : k' = k
    · subst hk
      rw [if_pos rfl, insertSorted]
      split
      · exact List.lookup_cons_self
      split
      · exact List.lookup_cons_self
      · rename_i hne
        rw [lookup_cons_of_ne hne, ih, if_pos rfl]
    · rw [if_neg hk, insertSorted]
      split
      · rw [lookup_cons_of_ne hk]
      split
      · rename_i heq
        subst heq
        rw [lookup_cons_of_ne hk, lookup_cons_of_ne hk]
      · by_cases h₀ : k' = k₀
        · subst h₀
          rw [List.lookup_cons_self, List.lookup_cons_self]
        · rw [lookup_cons_of_ne h₀, lookup_cons_of_ne h₀, ih, if_neg hk]

/-- The step of a fold that inserts bindings one after another. -/
abbrev insertStep (acc : List (String × α)) (kv : String × α) : List (String × α) :=
  insertSorted kv.1 kv.2 acc

theorem NamesAscending.foldl_insertSorted {acc : List (String × α)} (hacc : NamesAscending acc)
    (kvs : List (String × α)) : NamesAscending (kvs.foldl insertStep acc) := by
  induction kvs generalizing acc with
  | nil => exact hacc
  | cons p kvs ih => exact ih (hacc.insertSorted p.1 p.2)

/-- Inserting bindings in name order: a name is bound as the inserted bindings bind it,
else as the start binds it. -/
theorem lookup_foldl_insertSorted {kvs : List (String × α)} (hkvs : NamesAscending kvs)
    (acc : List (String × α)) (k : String) :
    (kvs.foldl insertStep acc).lookup k = (kvs.lookup k).or (acc.lookup k) := by
  induction kvs generalizing acc with
  | nil => simp
  | cons p kvs ih =>
    obtain ⟨k₀, v₀⟩ := p
    obtain ⟨hhead, htail⟩ := List.pairwise_cons.mp hkvs
    rw [List.foldl_cons, ih htail, insertStep, lookup_insertSorted]
    by_cases hk : k = k₀
    · subst hk
      rw [if_pos rfl, List.lookup_cons_self, lookup_eq_none_of_lt (fun p hp => hhead p hp)]
      rfl
    · rw [if_neg hk, lookup_cons_of_ne hk]

theorem NamesAscending.lookup_eq_none_of_lt_head {k k' : String} {v : α} {kvs : List (String × α)}
    (h : NamesAscending ((k, v) :: kvs)) (hlt : k' < k) : ((k, v) :: kvs).lookup k' = none := by
  rw [lookup_cons_of_ne (String.ne_of_lt hlt)]
  exact lookup_eq_none_of_lt fun p hp => String.lt_trans hlt ((List.pairwise_cons.mp h).1 p hp)

/-- Two lists in name order that bind every name alike are equal. -/
theorem NamesAscending.ext {a b : List (String × α)} (ha : NamesAscending a) (hb : NamesAscending b)
    (h : ∀ k, a.lookup k = b.lookup k) : a = b := by
  induction a generalizing b with
  | nil =>
    cases b with
    | nil => rfl
    | cons q bs =>
      obtain ⟨k, v⟩ := q
      simpa using h k
  | cons p as ih =>
    obtain ⟨hphead, hptail⟩ := List.pairwise_cons.mp ha
    cases b with
    | nil =>
      obtain ⟨k, v⟩ := p
      simpa using (h k).symm
    | cons q bs =>
      obtain ⟨hqhead, hqtail⟩ := List.pairwise_cons.mp hb
      obtain ⟨k₁, v₁⟩ := p
      obtain ⟨k₂, v₂⟩ := q
      have hk : k₁ = k₂ := by
        refine Classical.byContradiction fun hne => ?_
        by_cases hlt : k₁ < k₂
        · simpa [hb.lookup_eq_none_of_lt_head hlt] using h k₁
        · have hgt : k₂ < k₁ := String.lt_of_not_lt_of_ne hlt hne
          simpa [ha.lookup_eq_none_of_lt_head hgt] using (h k₂).symm
      subst hk
      have hv : v₁ = v₂ := by simpa using h k₁
      subst hv
      have hrest : ∀ k, as.lookup k = bs.lookup k := by
        intro k
        by_cases hk : k = k₁
        · subst hk
          rw [lookup_eq_none_of_lt hphead, lookup_eq_none_of_lt hqhead]
        · have := h k
          rwa [lookup_cons_of_ne hk, lookup_cons_of_ne hk] at this
      rw [ih hptail hqtail hrest]

end Bindings

/-! ### Merging configurations -/

namespace Settings

attribute [ext] Settings

/-- A configuration as the program builds it: its handlers in the form of a map. -/
def WellFormed (c : Settings) : Prop := NamesAscending c.handlers

variable {a b c : Settings}

theorem wellFormed_empty : empty.WellFormed := namesAscending_nil

theorem merge_handlers (a b : Settings) :
    (a.merge b).handlers = b.handlers.foldl insertStep a.handlers := rfl

theorem WellFormed.merge (ha : a.WellFormed) (b : Settings) : (a.merge b).WellFormed :=
  NamesAscending.foldl_insertSorted ha b.handlers

/-- A handler of a merge is the later layer's when it has one, else the earlier layer's. -/
theorem lookup_merge (hb : b.WellFormed) (a : Settings) (name : String) :
    (a.merge b).handlers.lookup name = (b.handlers.lookup name).or (a.handlers.lookup name) :=
  lookup_foldl_insertSorted hb _ _

theorem merge_sections (a b : Settings) :
    (a.merge b).server = b.server.or a.server ∧
    (a.merge b).definitions = b.definitions.or a.definitions ∧
    (a.merge b).services = b.services.or a.services ∧
    (a.merge b).logging = b.logging.or a.logging := by
  simp only [merge, Option.orElse_eq_or, and_self]

/-- Merging is associative. -/
theorem merge_assoc (ha : a.WellFormed) (hb : b.WellFormed) (hc : c.WellFormed) :
    (a.merge b).merge c = a.merge (b.merge c) := by
  ext1
  case server | definitions | services | logging => simp only [merge, Option.orElse_eq_or, Option.or_assoc]
  case handlers =>
    refine NamesAscending.ext ((ha.merge b).merge c) (ha.merge (b.merge c)) fun name => ?_
    rw [lookup_merge hc, lookup_merge hb, lookup_merge (hb.merge c), lookup_merge hc, Option.or_assoc]

/-- The empty configuration is neutral under a layer. -/
theorem empty_merge (ha : a.WellFormed) : empty.merge a = a := by
  ext1
  case server | definitions | services | logging => simp [merge, empty]
  case handlers =>
    refine NamesAscending.ext (wellFormed_empty.merge a) ha fun name => ?_
    rw [lookup_merge ha]
    simp [empty]

/-- The empty configuration is neutral as a layer. -/
theorem merge_empty (a : Settings) : a.merge empty = a := by
  ext1
  case server | definitions | services | logging => simp [merge, empty]
  case handlers => rfl

/-- Merging a configuration with itself changes nothing. -/
theorem merge_self (ha : a.WellFormed) : a.merge a = a := by
  ext1
  case server | definitions | services | logging => simp [merge]
  case handlers =>
    refine NamesAscending.ext (ha.merge a) ha fun name => ?_
    rw [lookup_merge ha, Option.or_self]

end Settings

/-! ### Loading the layers -/

/-- What the file at a path contributes: the layer it holds and the warnings it raises.  A
path that is not a regular file contributes nothing; a file that cannot be read or parsed
contributes no settings and one warning. -/
def layerAt (h : Host) (path : String) : Settings × List String :=
  if h.isFile path then
    match loadFile h path with
    | .ok layer => (layer, [])
    | .error e => (Settings.empty, ["Failed to load " ++ path ++ ": " ++ e.message])
  else (Settings.empty, [])

/-- Where the user layer is looked for: in the directory given, else in the user
configuration directory when there is one. -/
def userLayerPath (h : Host) (configDir : Option String) : Option String :=
  configDir.elim (userConfigPath h) fun d => some (h.join d userFile)

/-- Where the project layer is looked for: in the directory given, else the working
directory. -/
def projectLayerPath (h : Host) (projectDir : Option String) : String :=
  (projectDir.map (h.join · projectFile)).getD projectFile

theorem loadLayer_fst (h : Host) (acc : Settings × List String) (path : String) :
    (loadLayer h acc path).1 = (acc.1.merge (layerAt h path).1, acc.2 ++ (layerAt h path).2) := by
  unfold loadLayer layerAt
  by_cases hf : h.isFile path
  · cases hl : loadFile h path with
    | ok l => simp [hf]
    | error e => simp [hf, Settings.merge_empty]
  · simp [hf, Settings.merge_empty]

theorem layerAt_of_not_isFile {h : Host} {path : String} (hf : h.isFile path = false) :
    layerAt h path = (Settings.empty, []) := by
  simp [layerAt, hf]

theorem layerAt_warning (h : Host) (path : String) :
    (layerAt h path).2.length ≤ 1 ∧ ((layerAt h path).2 ≠ [] → (layerAt h path).1 = Settings.empty) := by
  unfold layerAt
  split
  · split <;> simp
  · simp

/-- Loading gives the empty configuration merged with the user layer and then the project
layer, and the warnings of the two layers before those of the handlers. -/
theorem loadWithOptions_layers (h : Host) (projectDir configDir : Option String) :
    let user := ((userLayerPath h configDir).map (layerAt h)).getD (Settings.empty, [])
    let project := layerAt h (projectLayerPath h projectDir)
    (loadWithOptions h projectDir configDir).settings =
        (Settings.empty.merge user.1).merge project.1 ∧
      (loadWithOptions h projectDir configDir).warnings =
        user.2 ++ project.2 ++ handlerWarnings (loadWithOptions h projectDir configDir).settings := by
  intro user project
  simp only [user, project]
  cases projectDir <;> cases configDir <;> dsimp only [loadWithOptions, userLayerPath,
    projectLayerPath, Option.elim, Option.map_some, Option.map_none, Option.getD_some,
    Option.getD_none]
  all_goals try split
  all_goals simp_all only [loadLayer_fst, Option.map_some, Option.map_none, Option.getD_some,
    Option.getD_none, Settings.merge_empty, List.nil_append, true_and]

/-- **Configuration layers form a monoid, and loading folds the layers in it.**  On
configurations whose handlers are a map (which the empty configuration is, and merging
keeps): merging is associative, the empty configuration is neutral on both sides, and a
configuration merged with itself is itself; each section of a merge is the later layer's
when it gives one, and each handler the later layer's when it has one.  Loading a layer
merges what its path contributes, which is nothing but at most one warning when there is no
regular file there or the file cannot be read or parsed; so loading gives the empty
configuration merged with the user layer and then the project layer. -/
theorem layers_merge_as_monoid :
    Settings.empty.WellFormed ∧
    (∀ a b : Settings, a.WellFormed → (a.merge b).WellFormed) ∧
    (∀ a b c : Settings, a.WellFormed → b.WellFormed → c.WellFormed →
      (a.merge b).merge c = a.merge (b.merge c)) ∧
    (∀ a : Settings, a.WellFormed → Settings.empty.merge a = a ∧ a.merge Settings.empty = a) ∧
    (∀ a : Settings, a.WellFormed → a.merge a = a) ∧
    (∀ a b : Settings,
      (a.merge b).server = b.server.or a.server ∧
      (a.merge b).definitions = b.definitions.or a.definitions ∧
      (a.merge b).services = b.services.or a.services ∧
      (a.merge b).logging = b.logging.or a.logging) ∧
    (∀ (a b : Settings) (name : String), b.WellFormed →
      (a.merge b).handlers.lookup name = (b.handlers.lookup name).or (a.handlers.lookup name)) ∧
    (∀ (h : Host) (acc : Settings × List String) (path : String),
      (loadLayer h acc path).1 = (acc.1.merge (layerAt h path).1, acc.2 ++ (layerAt h path).2) ∧
      (layerAt h path).2.length ≤ 1 ∧
      ((layerAt h path).2 ≠ [] → (layerAt h path).1 = Settings.empty) ∧
      (h.isFile path = false → layerAt h path = (Settings.empty, []))) ∧
    (∀ (h : Host) (projectDir configDir : Option String),
      let user := ((userLayerPath h configDir).map (layerAt h)).getD (Settings.empty, [])
      let project := layerAt h (projectLayerPath h projectDir)
      (loadWithOptions h projectDir configDir).settings =
          (Settings.empty.merge user.1).merge project.1 ∧
        (loadWithOptions h projectDir configDir).warnings =
          user.2 ++ project.2 ++ handlerWarnings (loadWithOptions h projectDir configDir).settings) := by
  refine ⟨Settings.wellFormed_empty, fun a b ha => ha.merge b, fun a b c => Settings.merge_assoc,
    fun a ha => ⟨Settings.empty_merge ha, Settings.merge_empty a⟩, fun a => Settings.merge_self,
    Settings.merge_sections, fun a b name hb => Settings.lookup_merge hb a name,
    fun h acc path => ⟨loadLayer_fst h acc path, (layerAt_warning h path).1,
      (layerAt_warning h path).2, layerAt_of_not_isFile⟩, loadWithOptions_layers⟩

/-- Three layers, two of them giving the same handler, merge alike in either grouping. -/
theorem charge_layers_regroup :
    let a : Settings := { handlers := [("charge", { command := "pay" })] }
    let b : Settings := { server := some {}, handlers := [("refund", { command := "undo" })] }
    let c : Settings := { handlers := [("charge", { command := "pay-v2" })] }
    a.WellFormed ∧ b.WellFormed ∧ c.WellFormed ∧ (a.merge b).merge c = a.merge (b.merge c) := by
  intro a b c
  have ha : a.WellFormed := List.pairwise_singleton _ _
  have hb : b.WellFormed := List.pairwise_singleton _ _
  have hc : c.WellFormed := List.pairwise_singleton _ _
  exact ⟨ha, hb, hc, layers_merge_as_monoid.2.2.1 a b c ha hb hc⟩

end Workflow.Config
