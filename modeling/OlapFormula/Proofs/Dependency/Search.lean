import Mathlib.Data.Finset.Card
import Mathlib.Data.List.Chain
import Mathlib.Logic.Relation
import OlapFormula.Dependency

/-!
# The search for a way back

The depth-first search finds a way from a measure to itself exactly if there is one, whatever other
cycles there are. What carries the proof of completeness: where the search comes back with nothing, the
precedents of every measure that it entered were entered too, and none of them is the target. What it finds
is a way through measures that it entered on this way and not before, so it meets none of them twice.
-/

namespace OlapFormula

namespace Dependency

open Relation

variable {precedents : String → List String} {target : String}

def Refers (precedents : String → List String) (a b : String) : Prop := b ∈ precedents a

/-- What a search that found nothing leaves behind. -/
structure IsExplored (precedents : String → List String) (target : String)
    (entered entered' : List String) : Prop where
  subset : entered ⊆ entered'
  closed : ∀ a ∈ entered', a ∉ entered → ∀ b ∈ precedents a, b ≠ target ∧ b ∈ entered'

namespace IsExplored

lemma refl (entered : List String) : IsExplored precedents target entered entered :=
  ⟨List.Subset.refl _, fun _ ha hnew => absurd ha hnew⟩

lemma trans {first second third : List String} (h : IsExplored precedents target first second)
    (h' : IsExplored precedents target second third) :
    IsExplored precedents target first third where
  subset := List.Subset.trans h.subset h'.subset
  closed a ha hnew b hb := by
    by_cases hsecond : a ∈ second
    · obtain ⟨hne, hmem⟩ := h.closed a hsecond hnew b hb
      exact ⟨hne, h'.subset hmem⟩
    · exact h'.closed a ha hsecond b hb

end IsExplored

/-- One measure after the other: if nothing is found, all of them were entered. `hvisit` is what the
search behind a single measure guarantees as long as few enough measures are left. -/
lemma searchEach_eq_none {visit : List String → String → List String × Option (List String)}
    (start : List String) {measures entered entered' : List String}
    (hvisit : ∀ entered, start ⊆ entered → ∀ measure ∈ measures, ∀ entered',
      visit entered measure = (entered', none) →
      IsExplored precedents target entered entered' ∧ measure ∈ entered')
    (hstart : start ⊆ entered)
    (h : searchEach target visit entered measures = (entered', none)) :
    IsExplored precedents target entered entered' ∧
      ∀ measure ∈ measures, measure ≠ target ∧ measure ∈ entered' := by
  induction measures generalizing entered with
  | nil =>
    obtain ⟨rfl, -⟩ := Prod.mk.inj h
    exact ⟨.refl _, by simp⟩
  | cons measure measures ih =>
    unfold searchEach at h
    by_cases htarget : measure = target
    · rw [if_pos htarget] at h
      cases h
    · rw [if_neg htarget] at h
      match hfirst : visit entered measure with
      | (_, some path) =>
        rw [hfirst] at h
        cases h
      | (middle, none) =>
        rw [hfirst] at h
        obtain ⟨hexplored, hmem⟩ := hvisit entered hstart measure (List.mem_cons_self ..) middle hfirst
        obtain ⟨hrest, hall⟩ := ih
          (fun entered hsub other hother => hvisit entered hsub other (List.mem_cons_of_mem _ hother))
          (List.Subset.trans hstart hexplored.subset) h
        refine ⟨hexplored.trans hrest, ?_⟩
        rintro other (_ | ⟨_, hother⟩)
        · exact ⟨htarget, hrest.subset hmem⟩
        · exact hall other hother

/-- Fewer nodes are left once one of them is entered. -/
lemma card_left_lt {nodes : Finset String} {entered : List String} {measure : String}
    (hmem : measure ∈ nodes) (hnew : measure ∉ entered) :
    (nodes \ (measure :: entered).toFinset).card < (nodes \ entered.toFinset).card := by
  refine Finset.card_lt_card ⟨fun a ha => ?_, fun hsub => ?_⟩
  · simp only [List.toFinset_cons, Finset.mem_sdiff, Finset.mem_insert] at ha ⊢
    tauto
  · have hleft : measure ∈ nodes \ entered.toFinset := by simp [hmem, hnew]
    simpa using hsub hleft

lemma card_left_le {nodes : Finset String} {entered entered' : List String} (h : entered ⊆ entered') :
    (nodes \ entered'.toFinset).card ≤ (nodes \ entered.toFinset).card := by
  refine Finset.card_le_card fun a ha => ?_
  simp only [Finset.mem_sdiff, List.mem_toFinset] at ha ⊢
  exact ⟨ha.1, fun hmem => ha.2 (h hmem)⟩

/-- The search behind a measure, where `nodes` are the measures behind it that have precedents: if
nothing is found, and the count was larger than the number of nodes that were not entered, then the
measure was entered and all behind it. -/
lemma search_eq_none {nodes : Finset String} {count : Nat} {entered entered' : List String}
    {measure : String}
    (hnodes : ∀ a, ReflTransGen (Refers precedents) measure a → precedents a ≠ [] → a ∈ nodes)
    (hcount : (nodes \ entered.toFinset).card < count)
    (h : search precedents target count entered measure = (entered', none)) :
    IsExplored precedents target entered entered' ∧ measure ∈ entered' := by
  induction count generalizing entered entered' measure with
  | zero => omega
  | succ count ih =>
    unfold search at h
    by_cases hentered : measure ∈ entered
    · rw [if_pos (List.contains_iff_mem.mpr hentered)] at h
      obtain ⟨rfl, -⟩ := Prod.mk.inj h
      exact ⟨.refl _, hentered⟩
    · rw [if_neg (by rwa [List.contains_iff_mem])] at h
      have hsearch : IsExplored precedents target (measure :: entered) entered' ∧
          ∀ b ∈ precedents measure, b ≠ target ∧ b ∈ entered' := by
        -- Measures without precedents are not among the nodes, and nothing is behind them.
        by_cases hnone : precedents measure = []
        · rw [hnone] at h ⊢
          obtain ⟨rfl, -⟩ := Prod.mk.inj h
          exact ⟨.refl _, by simp⟩
        · -- The measure is one of the nodes, so fewer of them are left behind it.
          have hleft := card_left_lt (hnodes measure .refl hnone) hentered
          refine searchEach_eq_none (measure :: entered) ?_ (List.Subset.refl _) h
          intro middle hsub other hother after hvisit
          have hfewer : (nodes \ middle.toFinset).card ≤ _ := card_left_le hsub
          exact ih (fun a ha => hnodes a (ha.head hother)) (by omega) hvisit
      obtain ⟨hexplored, hall⟩ := hsearch
      have hmem : measure ∈ entered' := hexplored.subset (List.mem_cons_self ..)
      refine ⟨⟨fun a ha => hexplored.subset (List.mem_cons_of_mem _ ha), ?_⟩, hmem⟩
      intro a ha hnew
      by_cases hsame : a = measure
      · exact hsame ▸ hall
      · exact hexplored.closed a ha (by simp [hsame, hnew])

lemma subset_searchEach {visit : List String → String → List String × Option (List String)}
    (hvisit : ∀ entered measure, entered ⊆ (visit entered measure).1) (entered measures : List String) :
    entered ⊆ (searchEach target visit entered measures).1 := by
  induction measures generalizing entered with
  | nil => exact List.Subset.refl _
  | cons measure measures ih =>
    unfold searchEach
    split
    · exact List.Subset.refl _
    · have hfirst := hvisit entered measure
      split
      · next hsome => rwa [hsome] at hfirst
      · next hnone =>
        rw [hnone] at hfirst
        exact List.Subset.trans hfirst (ih _)

lemma subset_search (count : Nat) (entered : List String) (measure : String) :
    entered ⊆ (search precedents target count entered measure).1 := by
  induction count generalizing entered measure with
  | zero => exact List.Subset.refl _
  | succ count ih =>
    unfold search
    split
    · exact List.Subset.refl _
    · exact List.Subset.trans (List.subset_cons_self _ _) (subset_searchEach ih _ _)

/-- A way over precedents to the target. Its end may be any measure, but on its way there it meets none
twice and none that was entered. -/
structure IsSimpleWay (precedents : String → List String) (target : String) (entered way : List String) :
    Prop where
  steps : way.IsChain (Refers precedents)
  finish : way.getLast? = some target
  nodup : way.dropLast.Nodup
  fresh : ∀ a ∈ way.dropLast, a ∉ entered

namespace IsSimpleWay

lemma single (entered : List String) : IsSimpleWay precedents target entered [target] where
  steps := .singleton _
  finish := rfl
  nodup := .nil
  fresh := fun _ ha => by cases ha

lemma mono {entered entered' way : List String} (h : IsSimpleWay precedents target entered' way)
    (hsub : entered ⊆ entered') : IsSimpleWay precedents target entered way where
  steps := h.steps
  finish := h.finish
  nodup := h.nodup
  fresh a ha hmem := h.fresh a ha (hsub hmem)

lemma cons {entered way : List String} {measure next : String}
    (h : IsSimpleWay precedents target (measure :: entered) (next :: way))
    (hnext : next ∈ precedents measure) (hnew : measure ∉ entered) :
    IsSimpleWay precedents target entered (measure :: next :: way) where
  steps := .cons_cons hnext h.steps
  finish := by simpa using h.finish
  nodup := by
    rw [List.dropLast_cons_of_ne_nil (List.cons_ne_nil _ _)]
    exact List.nodup_cons.mpr ⟨fun hmem => h.fresh measure hmem (List.mem_cons_self ..), h.nodup⟩
  fresh := by
    rw [List.dropLast_cons_of_ne_nil (List.cons_ne_nil _ _)]
    rintro a (_ | ⟨_, ha⟩)
    · exact hnew
    · exact fun hmem => h.fresh a ha (List.mem_cons_of_mem _ hmem)

lemma transGen {entered way : List String} {measure next : String}
    (h : IsSimpleWay precedents target entered (measure :: next :: way)) :
    TransGen (Refers precedents) measure target := by
  obtain ⟨hnext, hsteps⟩ := List.isChain_cons_cons.mp h.steps
  have hfinish := h.finish
  rw [List.getLast?_eq_some_getLast (List.cons_ne_nil _ _), Option.some.injEq] at hfinish
  exact .head' hnext (List.relationReflTransGen_of_exists_isChain_cons way hsteps hfinish)

end IsSimpleWay

/-- `hvisit` is what the search behind a single measure guarantees of what it finds. -/
lemma searchEach_eq_some {visit : List String → String → List String × Option (List String)}
    (start : List String)
    (hsubset : ∀ entered measure, entered ⊆ (visit entered measure).1)
    (hvisit : ∀ entered, start ⊆ entered → ∀ measure entered' path,
      visit entered measure = (entered', some path) →
      IsSimpleWay precedents target start (measure :: path))
    {measures entered entered' path : List String} (hstart : start ⊆ entered)
    (h : searchEach target visit entered measures = (entered', some path)) :
    ∃ next ∈ measures, ∃ rest, path = next :: rest ∧
      IsSimpleWay precedents target start (next :: rest) := by
  induction measures generalizing entered with
  | nil => cases h
  | cons measure measures ih =>
    unfold searchEach at h
    by_cases htarget : measure = target
    · rw [if_pos htarget] at h
      cases h
      exact ⟨measure, List.mem_cons_self .., [], rfl, htarget ▸ .single start⟩
    · rw [if_neg htarget] at h
      have hfirst := hsubset entered measure
      match hfound : visit entered measure with
      | (middle, some rest) =>
        rw [hfound] at h
        cases h
        exact ⟨measure, List.mem_cons_self .., rest, rfl, hvisit _ hstart _ _ _ hfound⟩
      | (middle, none) =>
        rw [hfound] at h hfirst
        obtain ⟨next, hnext, hway⟩ := ih (List.Subset.trans hstart hfirst) h
        exact ⟨next, List.mem_cons_of_mem _ hnext, hway⟩

/-- What is found is a way that meets no measure twice, through measures that were not entered before. -/
lemma search_eq_some {count : Nat} {entered entered' path : List String} {measure : String}
    (h : search precedents target count entered measure = (entered', some path)) :
    ∃ next rest, path = next :: rest ∧
      IsSimpleWay precedents target entered (measure :: next :: rest) := by
  induction count generalizing entered entered' measure path with
  | zero => cases h
  | succ count ih =>
    unfold search at h
    split at h
    · cases h
    · next hentered =>
      rw [List.contains_iff_mem] at hentered
      have hvisit : ∀ middle, measure :: entered ⊆ middle → ∀ other after found,
          search precedents target count middle other = (after, some found) →
          IsSimpleWay precedents target (measure :: entered) (other :: found) := by
        intro middle hsub other after found hfound
        obtain ⟨_, _, rfl, hway⟩ := ih hfound
        exact hway.mono hsub
      obtain ⟨next, hnext, rest, rfl, hway⟩ :=
        searchEach_eq_some (measure :: entered) (subset_search count) hvisit (List.Subset.refl _) h
      exact ⟨next, rest, rfl, hway.cons hnext hentered⟩

/-- A way back is found exactly if there is one, provided that the count is no less than the number of
the measures with precedents that can be reached. -/
theorem cycle?_isSome_iff {nodes : Finset String} {count : Nat} {measure : String}
    (hnodes : ∀ a, ReflTransGen (Refers precedents) measure a → precedents a ≠ [] → a ∈ nodes)
    (hcount : nodes.card ≤ count) :
    (cycle? precedents count measure).isSome ↔ TransGen (Refers precedents) measure measure := by
  rw [cycle?, Option.isSome_map]
  match hsearch : search precedents measure (count + 1) [] measure with
  | (entered, some path) =>
    obtain ⟨_, _, -, hway⟩ := search_eq_some hsearch
    exact iff_of_true rfl hway.transGen
  | (entered, none) =>
    refine iff_of_false (by simp) fun hcycle => ?_
    obtain ⟨hexplored, hmem⟩ := search_eq_none hnodes (by simpa using Nat.lt_succ_of_le hcount)
      hsearch
    have hreached : ∀ a, TransGen (Refers precedents) measure a → a ≠ measure ∧ a ∈ entered := by
      intro a ha
      induction ha with
      | single h => exact hexplored.closed measure hmem (List.not_mem_nil) _ h
      | tail _ h ih => exact hexplored.closed _ ih.2 (List.not_mem_nil) _ h
    exact (hreached measure hcycle).1 rfl

/-! ## The count -/

lemma searchEach_congr {visit visit' : List String → String → List String × Option (List String)}
    (start : List String) {measures entered : List String}
    (hvisit : ∀ entered, start ⊆ entered → ∀ measure ∈ measures,
      visit entered measure = visit' entered measure)
    (hsubset : ∀ entered measure, entered ⊆ (visit entered measure).1) (hstart : start ⊆ entered) :
    searchEach target visit entered measures = searchEach target visit' entered measures := by
  induction measures generalizing entered with
  | nil => rfl
  | cons measure measures ih =>
    have hsame := hvisit entered hstart measure (List.mem_cons_self ..)
    have hfirst := hsubset entered measure
    unfold searchEach
    rw [← hsame]
    split
    · rfl
    · split
      · rfl
      · next hnone =>
        rw [hnone] at hfirst
        exact ih (fun entered hsub other hother => hvisit entered hsub other (List.mem_cons_of_mem _ hother))
          (List.Subset.trans hstart hfirst)

/-- A count that is larger than the number of nodes that were not entered never ends the search. -/
lemma search_congr {nodes : Finset String} {count count' : Nat} {entered : List String}
    {measure : String}
    (hnodes : ∀ a, ReflTransGen (Refers precedents) measure a → precedents a ≠ [] → a ∈ nodes)
    (hcount : (nodes \ entered.toFinset).card < count)
    (hcount' : (nodes \ entered.toFinset).card < count') :
    search precedents target count entered measure =
      search precedents target count' entered measure := by
  induction count generalizing count' entered measure with
  | zero => omega
  | succ count ih =>
    obtain ⟨count', rfl⟩ : ∃ fewer, count' = fewer + 1 := ⟨count' - 1, by omega⟩
    unfold search
    split
    · rfl
    · next hentered =>
      rw [List.contains_iff_mem] at hentered
      by_cases hnone : precedents measure = []
      · rw [hnone]
        rfl
      · have hleft := card_left_lt (hnodes measure .refl hnone) hentered
        refine searchEach_congr (measure :: entered) (fun middle hsub other hother => ?_)
          (subset_search count) (List.Subset.refl _)
        have hfewer : (nodes \ middle.toFinset).card ≤ _ := card_left_le hsub
        exact ih (fun a ha => hnodes a (ha.head hother)) (by omega) (by omega)

theorem cycle?_congr {nodes : Finset String} {count count' : Nat} {measure : String}
    (hnodes : ∀ a, ReflTransGen (Refers precedents) measure a → precedents a ≠ [] → a ∈ nodes)
    (hcount : nodes.card ≤ count) (hcount' : nodes.card ≤ count') :
    cycle? precedents count measure = cycle? precedents count' measure := by
  have hsearch := @search_congr precedents measure nodes (count + 1) (count' + 1) [] measure hnodes
    (by simpa using Nat.lt_succ_of_le hcount) (by simpa using Nat.lt_succ_of_le hcount')
  rw [cycle?, cycle?, hsearch]

end Dependency

end OlapFormula
