import Attest.Proofs.TextOrder
import Attest.Registry.Shared
import Mathlib.Data.List.Sort

/-!
# The order of the shared registry

The shared registry starts with the defined tests in the order of their places. That order leaves no
choice when no two places are equal, so it does not matter in which order the definitions come.
Which call uses the registry first does not matter either: the registry is filled then and only
then, and holds the defined tests followed by what the calls register.
-/

namespace Attest

namespace Definition

def place (definition : Definition) : String × Nat :=
  (definition.file, definition.line)

/-- A definition stands in an earlier file, by bytes, or in the same file on no later line. -/
def PlacedNoLater (a b : Definition) : Prop :=
  Text.bytes a.file < Text.bytes b.file ∨ a.file = b.file ∧ a.line ≤ b.line

theorem precedes_iff {a b : Definition} : a.precedes b = true ↔ PlacedNoLater a b := by
  have hfile : Text.compare a.file b.file = .eq ↔ a.file = b.file :=
    Std.LawfulEqCmp.compare_eq_iff_eq
  rw [precedes, compare, Ordering.isLE_then_iff_or, Text.compare_eq_lt_iff, Nat.isLE_compare, hfile]
  rfl

/-- The order of definitions compares two keys in turn, and both orders are linear. -/
theorem compare_eq_compareLex :
    compare = compareLex (fun a b => Text.compare a.file b.file) (compareOn line) := rfl

instance transCmp_file : Std.TransCmp fun a b : Definition => Text.compare a.file b.file where
  eq_swap := Std.OrientedCmp.eq_swap
  isLE_trans := Std.TransCmp.isLE_trans

theorem precedes_trans (a b c : Definition) (hab : a.precedes b = true)
    (hbc : b.precedes c = true) : a.precedes c = true := by
  rw [precedes, compare_eq_compareLex] at *
  exact Std.TransCmp.isLE_trans hab hbc

theorem precedes_total (a b : Definition) : (a.precedes b || b.precedes a) = true := by
  rw [precedes, precedes, compare_eq_compareLex]
  set cmp : Definition → Definition → Ordering :=
    compareLex (fun a b => Text.compare a.file b.file) (compareOn line)
  have hswap : cmp b a = (cmp a b).swap := Std.OrientedCmp.eq_swap
  rw [hswap]
  cases cmp a b <;> rfl

/-- Two definitions that precede each other have the same place. -/
theorem place_eq_of_precedes {a b : Definition} (hab : a.precedes b = true)
    (hba : b.precedes a = true) : a.place = b.place := by
  rcases precedes_iff.mp hab with hlt | ⟨hfile, hline⟩
  · rcases precedes_iff.mp hba with hgt | ⟨hfile, -⟩
    · exact absurd hgt (List.lt_asymm hlt)
    · rw [hfile] at hlt
      exact absurd hlt (List.lt_irrefl _)
  · rcases precedes_iff.mp hba with hgt | ⟨-, hback⟩
    · rw [hfile] at hgt
      exact absurd hgt (List.lt_irrefl _)
    · exact Prod.ext hfile (Nat.le_antisymm hline hback)

/-- Definitions at places of their own have only one order. -/
theorem mergeSort_eq_of_perm {definitions others : List Definition} (hp : others.Perm definitions)
    (hd : (definitions.map place).Nodup) :
    others.mergeSort precedes = definitions.mergeSort precedes := by
  have hperm : (others.mergeSort precedes).Perm (definitions.mergeSort precedes) :=
    (List.mergeSort_perm _ _).trans (hp.trans (List.mergeSort_perm _ _).symm)
  refine hperm.eq_of_pairwise ?_ (List.pairwise_mergeSort precedes_trans precedes_total _)
    (List.pairwise_mergeSort precedes_trans precedes_total _)
  intro a b ha hb hab hba
  have hmem : a ∈ definitions := hp.mem_iff.mp (List.mem_mergeSort.mp ha)
  exact List.inj_on_of_nodup_map hd hmem (List.mem_mergeSort.mp hb)
    (place_eq_of_precedes hab hba)

end Definition

namespace Registry

theorem tests_foldl_register (registry : Registry) (definitions : List Definition) :
    (definitions.foldl (fun registry definition => registry.register definition.registered)
      registry).tests = registry.tests ++ definitions.map Definition.registered := by
  induction definitions generalizing registry with
  | nil => exact (List.append_nil _).symm
  | cons definition definitions ih =>
    rw [List.foldl_cons, ih, tests_register, List.append_assoc]
    rfl

theorem tests_ofDefinitions (definitions : List Definition) :
    (ofDefinitions definitions).tests =
      (definitions.mergeSort Definition.precedes).map Definition.registered :=
  (tests_foldl_register empty _).trans (List.nil_append _)

end Registry

namespace SharedRegistry

/-- A call that uses the shared registry. Creating a decorator is such a call, though it registers
nothing. -/
inductive Call where
  | test (callable : Callable)
  | decorate (decorator : Decorator)
  | apply (decorator : Decorator) (callable : Callable)
  | list

def Call.registered? : Call → Option RegisteredTest
  | test callable =>
    let function := Registry.identifier callable.typeName
    some (.ofBody function function callable.body)
  | apply decorator callable => some (decorator.test callable)
  | decorate _ | list => none

/-- Makes a call. Only a listing answers with tests. -/
def step (shared : SharedRegistry) : Call → Option (List RegisteredTest) × SharedRegistry
  | .test callable => (none, shared.test callable)
  | .decorate _ => (none, (shared.use fun registry => ((), registry)).2)
  | .apply decorator callable => (none, shared.apply decorator callable)
  | .list =>
    let (tests, shared) := shared.list
    (some tests, shared)

def run (shared : SharedRegistry) :
    List Call → List (Option (List RegisteredTest)) × SharedRegistry
  | [] => ([], shared)
  | call :: calls =>
    let (answer, shared) := shared.step call
    let (answers, shared) := shared.run calls
    (answer :: answers, shared)

variable {shared : SharedRegistry} {call : Call} {calls : List Call}

/-- A call finds the registry filled or fills it, and leaves it filled with its own test added. -/
theorem step_filled (shared : SharedRegistry) (call : Call) :
    (shared.step call).2 = { shared with
      filled := some ⟨shared.contents.tests ++ call.registered?.toList⟩ } := by
  cases call with
  | test callable => rfl
  | apply decorator callable => rfl
  | decorate decorator | list =>
    rw [Call.registered?, Option.toList_none, List.append_nil]
    rfl

theorem run_cons (shared : SharedRegistry) (call : Call) (calls : List Call) :
    shared.run (call :: calls) =
      ((shared.step call).1 :: ((shared.step call).2.run calls).1,
        ((shared.step call).2.run calls).2) := rfl

/-- A run adds what its calls register to what the registry holds. -/
theorem run_contents (shared : SharedRegistry) (calls : List Call) :
    (shared.run calls).2.contents.tests =
      shared.contents.tests ++ calls.filterMap Call.registered? := by
  induction calls generalizing shared with
  | nil => exact (List.append_nil _).symm
  | cons call calls ih =>
    rw [run_cons, ih, step_filled, List.filterMap_cons]
    cases call.registered? <;> simp [contents]

theorem length_run (shared : SharedRegistry) (calls : List Call) :
    (shared.run calls).1.length = calls.length := by
  induction calls generalizing shared with
  | nil => rfl
  | cons call calls ih => rw [run_cons, List.length_cons, List.length_cons, ih]

theorem run_append (shared : SharedRegistry) (calls later : List Call) :
    (shared.run (calls ++ later)).1 =
      (shared.run calls).1 ++ ((shared.run calls).2.run later).1 := by
  induction calls generalizing shared with
  | nil => rfl
  | cons call calls ih => rw [List.cons_append, run_cons, ih, run_cons, List.cons_append]

/-- A listing in the middle of a run answers with what the run has registered so far. -/
theorem run_list (shared : SharedRegistry) (before after : List Call) :
    (shared.run (before ++ .list :: after)).1[before.length]? =
      some (some (shared.contents.tests ++ before.filterMap Call.registered?)) := by
  rw [run_append, List.getElem?_append_right (length_run shared before).le, length_run,
    Nat.sub_self, run_cons, ← run_contents]
  rfl

/-- Once the registry is filled, the definitions are not looked at again. -/
theorem run_of_filled (registry : Registry) (definitions others : List Definition)
    (calls : List Call) :
    (run ⟨definitions, some registry⟩ calls).1 = (run ⟨others, some registry⟩ calls).1 := by
  induction calls generalizing registry with
  | nil => rfl
  | cons call calls ih =>
    rw [run_cons, run_cons, step_filled, step_filled]
    refine congrArg₂ List.cons ?_ (ih _)
    cases call <;> rfl

/-- After a first call the registry is filled. -/
theorem run_filled (shared : SharedRegistry) (hne : calls ≠ []) :
    ∃ registry, (shared.run calls).2 = { shared with filled := some registry } := by
  induction calls generalizing shared with
  | nil => exact absurd rfl hne
  | cons call calls ih =>
    rw [run_cons, step_filled]
    cases calls with
    | nil => exact ⟨_, rfl⟩
    | cons next calls => exact ih _ (List.cons_ne_nil _ _)

/-- What the shared registry lists. However the definitions come, it starts with each of them once,
by file and then by line, those at one place as they come; a test goes by its given name or else by
its function, and its place is known. When no two places are equal, every order of the definitions
gives the same start. Whatever calls are made and whichever comes first, a listing answers with this
start followed by what was registered before; and the start is made once, for after any call the
definitions have no bearing on the answers. -/
theorem lists_definitions_then_calls {definitions yielded : List Definition}
    (h : yielded.Perm definitions) :
    let start := (Registry.ofDefinitions yielded).tests
    (∃ sorted : List Definition, sorted.Perm definitions ∧
      sorted.Pairwise Definition.PlacedNoLater ∧
      (∀ a b : Definition, [a, b].Sublist yielded → a.place = b.place → [a, b].Sublist sorted) ∧
      start = sorted.map fun definition =>
        { name := definition.name.getD definition.function
          function := definition.function
          modulePath := some definition.modulePath
          file := some definition.file
          line := some definition.line
          body := definition.body }) ∧
    ((definitions.map Definition.place).Nodup → ∀ others : List Definition,
      others.Perm definitions → (Registry.ofDefinitions others).tests = start) ∧
    (∀ before after : List Call,
      ((unused yielded).run (before ++ .list :: after)).1[before.length]? =
        some (some (start ++ before.filterMap Call.registered?))) ∧
    ∀ calls : List Call, calls ≠ [] → ∃ registry : Registry,
      ((unused yielded).run calls).2 = ⟨yielded, some registry⟩ ∧
      registry.tests = start ++ calls.filterMap Call.registered? ∧
      ∀ (others : List Definition) (later : List Call),
        (run ⟨others, some registry⟩ later).1 = (run ⟨yielded, some registry⟩ later).1 := by
  intro start
  refine ⟨⟨yielded.mergeSort Definition.precedes, (List.mergeSort_perm _ _).trans h, ?_, ?_,
    Registry.tests_ofDefinitions yielded⟩, ?_, ?_, ?_⟩
  · have hsorted :=
      List.pairwise_mergeSort Definition.precedes_trans Definition.precedes_total yielded
    exact hsorted.imp Definition.precedes_iff.mp
  · intro a b hab hplace
    refine List.pair_sublist_mergeSort Definition.precedes_trans Definition.precedes_total ?_ hab
    obtain ⟨hfile, hline⟩ := Prod.mk.inj hplace
    exact Definition.precedes_iff.mpr (Or.inr ⟨hfile, hline.le⟩)
  · intro hd others hothers
    rw [Registry.tests_ofDefinitions, Definition.mergeSort_eq_of_perm hothers hd,
      ← Definition.mergeSort_eq_of_perm h hd, ← Registry.tests_ofDefinitions]
  · intro before after
    exact run_list (unused yielded) before after
  · intro calls hne
    obtain ⟨registry, hrun⟩ := run_filled (unused yielded) hne
    have hcontents := run_contents (unused yielded) calls
    rw [hrun] at hcontents
    exact ⟨registry, hrun, hcontents, fun others later =>
      run_of_filled registry others yielded later⟩

/-- Two definitions that come in the wrong order, and a registration before the first listing. -/
theorem lists_definitions_then_calls_two :
    let late : Definition := ⟨none, "total", "cart", "tests/ä.rs", 3, .pass⟩
    let early : Definition := ⟨some "adds", "sum", "cart", "tests/z.rs", 40, .pass⟩
    let call : Call := .apply (.named "extra") ⟨"cart::more", .pass⟩
    [late, early].Perm [early, late] ∧ ([early, late].map Definition.place).Nodup ∧
    (Registry.ofDefinitions [early, late]).tests = [early.registered, late.registered] ∧
    ((unused [late, early]).run [call, .list]).1[1]? =
      some (some [early.registered, late.registered, .ofBody "extra" "more" .pass]) := by
  intro late early call
  have hperm : [late, early].Perm [early, late] := .swap early late []
  have hplaces : ([early, late].map Definition.place).Nodup := by decide
  have hsorted : [early, late].Pairwise fun a b => a.precedes b = true :=
    List.pairwise_pair.mpr (by decide)
  have hstart : (Registry.ofDefinitions [early, late]).tests =
      [early.registered, late.registered] := by
    rw [Registry.tests_ofDefinitions, List.mergeSort_of_pairwise hsorted]
    rfl
  obtain ⟨-, hsame, hlist, -⟩ := lists_definitions_then_calls hperm
  rw [← hsame hplaces _ (.refl _), hstart] at hlist
  exact ⟨hperm, hplaces, hstart, hlist [call] []⟩

end SharedRegistry

end Attest
