import OlapFormula.Message
import OlapFormula.Model.Store
import OlapFormula.Node.Basic

/-!
# Dependencies of measures

The precedents of a measure are the measures that its formula refers to. A measure must not be its own
precedent, be it through others. The search for a way back goes depth first, in the order in which the
formulas name the precedents, and enters no measure twice.
-/

namespace OlapFormula

namespace Dependency

/-- Searches on behind each of some measures, as long as nothing is found. `visit` searches behind one,
given the measures that were entered, and also gives those that are entered then. -/
def searchEach (target : String)
    (visit : List String → String → List String × Option (List String)) (entered : List String) :
    List String → List String × Option (List String)
  | [] => (entered, none)
  | measure :: measures =>
    if measure = target then (entered, some [measure])
    else
      match visit entered measure with
      | (entered, some path) => (entered, some (measure :: path))
      | (entered, none) => searchEach target visit entered measures

/-- The way from a measure over precedents to the target, the measure itself aside. The count bounds
the length of the way. -/
def search (precedents : String → List String) (target : String) :
    (count : Nat) → (entered : List String) → String → List String × Option (List String)
  | 0, entered, _ => (entered, none)
  | count + 1, entered, measure =>
    if entered.contains measure then (entered, none)
    else
      searchEach target (search precedents target count) (measure :: entered) (precedents measure)

/-- A way from a measure back to itself, where at most `count` measures have precedents. -/
def cycle? (precedents : String → List String) (count : Nat) (measure : String) :
    Option (List String) :=
  (search precedents measure (count + 1) [] measure).2.map (measure :: ·)

end Dependency

/-- Which measures each measure refers to, as far as it has been told. -/
structure DependencyGraph where
  entries : List (String × List String) := []
deriving Repr, DecidableEq

namespace DependencyGraph

def precedents (graph : DependencyGraph) (measure : String) : List String :=
  (graph.entries.lookup measure).getD []

def addTo (precedent dependent : String) :
    List (String × List String) → List (String × List String)
  | [] => [(dependent, [precedent])]
  | (measure, precedents) :: entries =>
    if measure = dependent then
      (measure, if precedents.contains precedent then precedents else precedents ++ [precedent]) ::
        entries
    else (measure, precedents) :: addTo precedent dependent entries

/-- Says that `dependent` refers to `precedent`. -/
def add (graph : DependencyGraph) (precedent dependent : String) : DependencyGraph :=
  ⟨addTo precedent dependent graph.entries⟩

/-- Says that `dependent` refers to all of the precedents. -/
def addAll (graph : DependencyGraph) (precedents : List String) (dependent : String) :
    DependencyGraph :=
  precedents.foldl (fun graph precedent => graph.add precedent dependent) graph

/-- A way from a measure back to itself. -/
def cycle? (graph : DependencyGraph) (measure : String) : Option (List String) :=
  Dependency.cycle? graph.precedents graph.entries.length measure

end DependencyGraph

namespace Dependency

/-- How many references there are in the formulas that were not loaded, counted for every name. -/
def referencesLeft (model : Model) (loaded : List String) : Nat :=
  (((model.measureNames.map (·.1)).filter (!loaded.contains ·)).flatMap model.dependentIds).length

theorem length_flatMap_filter_cons (f : String → List String) {measure : String} {loaded : List String}
    (h : measure ∉ loaded) (names : List String) :
    ((names.filter (!(measure :: loaded).contains ·)).flatMap f).length +
        names.count measure * (f measure).length =
      ((names.filter (!loaded.contains ·)).flatMap f).length := by
  induction names with
  | nil => simp
  | cons name names ih =>
    by_cases hsame : name = measure
    · subst hsame
      rw [List.filter_cons_of_neg (by simp), List.filter_cons_of_pos (by simpa using h),
        List.count_cons_self, List.flatMap_cons, List.length_append, Nat.succ_mul, ← ih]
      omega
    · rw [List.count_cons_of_ne hsame]
      by_cases hloaded : name ∈ loaded
      · rwa [List.filter_cons_of_neg (by simp [hloaded]), List.filter_cons_of_neg (by simp [hloaded])]
      · rw [List.filter_cons_of_pos (by simp [hsame, hloaded]),
          List.filter_cons_of_pos (by simp [hloaded]), List.flatMap_cons, List.flatMap_cons,
          List.length_append, List.length_append, ← ih, Nat.add_assoc]

/-- What the formula of a measure can add, it adds once. -/
theorem referencesLeft_cons (model : Model) {measure : String} {loaded : List String}
    (h : measure ∉ loaded) :
    referencesLeft model (measure :: loaded) + (model.dependentIds measure).length ≤
      referencesLeft model loaded := by
  unfold referencesLeft
  rw [← length_flatMap_filter_cons _ h]
  apply Nat.add_le_add_left
  by_cases hnone : model.dependentIds measure = []
  · simp [hnone]
  · exact Nat.le_mul_of_pos_left _ (List.count_pos_iff.mpr (Model.mem_names_of_dependentIds hnone))

/-- Loads what the measures that wait refer to, and what these refer to in turn. The measure under work
is not loaded, and none is loaded twice. The first of those that wait is the one that came last. -/
def load (model : Model) (editing : String) (loaded : List String) (graph : DependencyGraph) :
    (waiting : List String) → DependencyGraph
  | [] => graph
  | measure :: waiting =>
    if measure = editing ∨ measure ∈ loaded then load model editing loaded graph waiting
    else
      let precedents := model.dependentIds measure
      load model editing (measure :: loaded) (graph.addAll precedents measure)
        (precedents.reverse ++ waiting)
termination_by waiting => waiting.length + referencesLeft model loaded
decreasing_by
  · exact Nat.add_lt_add_right (Nat.lt_succ_self _) _
  · next hnew =>
    have hleft := referencesLeft_cons model (not_or.mp hnew).2
    simp only [List.length_append, List.length_reverse, List.length_cons]
    omega

/-- What a formula leads to, if it is that of the measure under work. -/
def graphOf (model : Model) (editing : String) (root : Node) : DependencyGraph :=
  let ids := root.measureRefs.map (·.id)
  load model editing [] (({} : DependencyGraph).addAll ids editing) ids.reverse

def cycleMessage (measure : String) (path : List String) : Message :=
  let steps := path.reverse.map fun id => "[" ++ id ++ "]"
  { code := .cyclicalDependency
    text := "Measure " ++ measure ++ " depends on itself: " ++ Text.joined " -> " steps }

/-- What is said if a formula makes a measure depend on itself. -/
def guard (model : Model) (editing : String) (root : Node) : List Message :=
  let editing := model.measureId editing
  match (graphOf model editing root).cycle? editing with
  | some path => [cycleMessage editing path]
  | none => []

end Dependency

end OlapFormula
