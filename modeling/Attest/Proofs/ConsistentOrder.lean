import Attest.Proofs.TextOrder
import Attest.Proofs.Verdicts

/-!
# One order behind the ordering checks

Values of an orderable kind are compared by their first difference. The comparison has no result when
that difference is met at something that is no number, wherever this lies and whatever comes later.
It still makes an order: it turns round with its sides, agrees with equality, and what comes before
something earlier comes before. Each way of building values keeps these laws, so they hold at every
depth, and the four ordering checks and the equality check fit together.
-/

namespace Attest

/-- The result of two comparisons, the second of which counts only where the first finds no
difference. -/
def firstDifference : Option Ordering → Option Ordering → Option Ordering
  | some .eq, second => second
  | first, _ => first

/-- How the results of comparing one value with a second and the second with a third make that of
comparing the first with the third, as long as neither descends. -/
def Composes (first second both : Option Ordering) : Prop :=
  ∀ o o', first = some o → second = some o' → o.isLE → o'.isLE → both = some (o.then o')

section firstDifference

variable {a a' a'' b b' b'' : Option Ordering}

theorem map_swap_firstDifference :
    (firstDifference a b).map Ordering.swap =
      firstDifference (a.map Ordering.swap) (b.map Ordering.swap) := by
  rcases a with _ | (_ | _ | _) <;> rfl

theorem firstDifference_eq_iff :
    firstDifference a b = some .eq ↔ a = some .eq ∧ b = some .eq := by
  rcases a with _ | (_ | _ | _) <;> simp [firstDifference]

/-- What two comparisons come to does not descend when the first ascends, or else finds no difference
and the second does not descend. -/
theorem firstDifference_isLE {o : Ordering} (h : firstDifference a b = some o) (ho : o.isLE) :
    (a = some .lt ∧ o = .lt) ∨ (a = some .eq ∧ b = some o) := by
  rcases a with _ | (_ | _ | _)
  · cases h
  · exact Or.inl ⟨rfl, (Option.some.inj h).symm⟩
  · exact Or.inr ⟨rfl, h⟩
  · cases h
    cases ho

theorem Composes.firstDifference (ha : Composes a a' a'') (hb : Composes b b' b'') :
    Composes (firstDifference a b) (firstDifference a' b') (firstDifference a'' b'') := by
  intro o o' h h' ho ho'
  rcases firstDifference_isLE h ho with ⟨hl, rfl⟩ | ⟨he, hrest⟩ <;>
    rcases firstDifference_isLE h' ho' with ⟨hl', rfl⟩ | ⟨he', hrest'⟩
  · rw [ha _ _ hl hl' rfl rfl]
    rfl
  · rw [ha _ _ hl he' rfl rfl]
    rfl
  · rw [ha _ _ he hl' rfl rfl]
    cases o with
    | gt => cases ho
    | _ => rfl
  · rw [ha _ _ he he' rfl rfl]
    exact hb _ _ hrest hrest' ho ho'

theorem compareEach?_cons_cons {α : Type} (compare? : α → α → Option Ordering) (x y : α)
    (xs ys : List α) :
    compareEach? compare? (x :: xs) (y :: ys) =
      firstDifference (compare? x y) (compareEach? compare? xs ys) := by
  rw [compareEach?]
  rcases compare? x y with _ | (_ | _ | _) <;> rfl

theorem compareBoth?_eq {α β : Type} (first? : α → α → Option Ordering)
    (second? : β → β → Option Ordering) (v w : α × β) :
    compareBoth? first? second? v w = firstDifference (first? v.1 w.1) (second? v.2 w.2) := by
  rw [compareBoth?]
  rcases first? v.1 w.1 with _ | (_ | _ | _) <;> rfl

theorem compareRow?_succ {n : Nat} {α : Fin (n + 1) → Type}
    (part? : (i : Fin (n + 1)) → α i → α i → Option Ordering) (v w : (i : Fin (n + 1)) → α i) :
    compareRow? part? v w = firstDifference (part? 0 (v 0) (w 0))
      (compareRow? (fun i => part? i.succ) (fun i => v i.succ) fun i => w i.succ) :=
  compareBoth?_eq (part? 0) (compareRow? fun i => part? i.succ) (v 0, fun i => v i.succ)
    (w 0, fun i => w i.succ)

end firstDifference

/-- A comparison that may have no result, and an equality, make one order: the comparison turns round
with its sides, finds no difference exactly between equals, and composes. -/
structure LawfulComparison {α : Type} (compare? : α → α → Option Ordering)
    (equal : α → α → Bool) : Prop where
  swap : ∀ x y, compare? y x = (compare? x y).map Ordering.swap
  eq_iff : ∀ x y, compare? x y = some .eq ↔ equal x y = true
  composes : ∀ x y z, Composes (compare? x y) (compare? y z) (compare? x z)

namespace LawfulComparison

variable {α β : Type} {compare? : α → α → Option Ordering} {equal : α → α → Bool}

/-- A comparison that always has a result, and finds no difference between the same alone. -/
theorem of_total [BEq α] [LawfulBEq α] (cmp : α → α → Ordering) [Std.TransCmp cmp]
    [Std.LawfulEqCmp cmp] : LawfulComparison (fun x y => some (cmp x y)) (· == ·) where
  swap x y := congrArg some Std.OrientedCmp.eq_swap
  eq_iff x y := by rw [Option.some.injEq, Std.LawfulEqCmp.compare_eq_iff_eq, beq_iff_eq]
  composes x y z o o' ho ho' hle hle' := by
    cases ho
    cases ho'
    refine congrArg some ?_
    cases hxy : cmp x y with
    | lt =>
      cases hyz : cmp y z with
      | lt => exact Std.TransCmp.lt_trans hxy hyz
      | eq => exact Std.TransCmp.lt_of_lt_of_eq hxy hyz
      | gt => simp [hyz] at hle'
    | eq =>
      cases hyz : cmp y z with
      | lt => exact Std.TransCmp.lt_of_eq_of_lt hxy hyz
      | eq => exact Std.TransCmp.eq_trans hxy hyz
      | gt => simp [hyz] at hle'
    | gt => simp [hxy] at hle

/-- A comparison that never finds a difference. -/
theorem of_alike : LawfulComparison (fun _ _ : α => some .eq) fun _ _ => true where
  swap _ _ := rfl
  eq_iff _ _ := iff_of_true rfl rfl
  composes _ _ _ o o' ho ho' _ _ := by
    cases ho
    exact ho'

/-- A comparison of a value with itself finds no difference or has no result. -/
theorem self (h : LawfulComparison compare? equal) (x : α) :
    compare? x x = if equal x x then some .eq else none := by
  split
  · exact (h.eq_iff x x).mpr ‹_›
  · have hne : compare? x x ≠ some .eq := fun heq => ‹¬ _› ((h.eq_iff x x).mp heq)
    have hswap := h.swap x x
    rcases hx : compare? x x with _ | (_ | _ | _)
    · rfl
    · rw [hx] at hswap
      cases hswap
    · exact absurd hx hne
    · rw [hx] at hswap
      cases hswap

theorem comap (h : LawfulComparison compare? equal) (f : β → α) :
    LawfulComparison (fun x y => compare? (f x) (f y)) (fun x y => equal (f x) (f y)) where
  swap x y := h.swap (f x) (f y)
  eq_iff x y := h.eq_iff (f x) (f y)
  composes x y z := h.composes (f x) (f y) (f z)

theorem each (h : LawfulComparison compare? equal) :
    LawfulComparison (compareEach? compare?) (equalEach equal) where
  swap xs ys := by
    induction xs generalizing ys with
    | nil => cases ys <;> rfl
    | cons x xs ih =>
      cases ys with
      | nil => rfl
      | cons y ys =>
        rw [compareEach?_cons_cons, compareEach?_cons_cons, map_swap_firstDifference, h.swap x y,
          ih ys]
  eq_iff xs ys := by
    induction xs generalizing ys with
    | nil => cases ys <;> simp [compareEach?, equalEach]
    | cons x xs ih =>
      cases ys with
      | nil => simp [compareEach?, equalEach]
      | cons y ys =>
        rw [compareEach?_cons_cons, firstDifference_eq_iff, h.eq_iff, ih ys, equalEach,
          Bool.and_eq_true]
  composes xs ys zs := by
    -- a list that has ended comes before every longer one, so nothing composes on its other side
    induction xs generalizing ys zs with
    | nil =>
      intro o o' ho ho' hle hle'
      cases ys with
      | nil =>
        cases ho
        exact ho'
      | cons y ys =>
        cases ho
        cases zs with
        | nil =>
          cases ho'
          cases hle'
        | cons z zs => rfl
    | cons x xs ih =>
      intro o o' ho ho' hle hle'
      cases ys with
      | nil =>
        cases ho
        cases hle
      | cons y ys =>
        cases zs with
        | nil =>
          cases ho'
          cases hle'
        | cons z zs =>
          rw [compareEach?_cons_cons] at *
          exact (h.composes x y z).firstDifference (ih ys zs) o o' ho ho' hle hle'

theorem both {first? : α → α → Option Ordering} {equal₁ : α → α → Bool}
    {second? : β → β → Option Ordering} {equal₂ : β → β → Bool}
    (h₁ : LawfulComparison first? equal₁) (h₂ : LawfulComparison second? equal₂) :
    LawfulComparison (compareBoth? first? second?)
      (fun v w => equal₁ v.1 w.1 && equal₂ v.2 w.2) where
  swap v w := by
    rw [compareBoth?_eq, compareBoth?_eq, map_swap_firstDifference, h₁.swap v.1 w.1,
      h₂.swap v.2 w.2]
  eq_iff v w := by
    rw [compareBoth?_eq, firstDifference_eq_iff, h₁.eq_iff, h₂.eq_iff, Bool.and_eq_true]
  composes v w u := by
    rw [compareBoth?_eq, compareBoth?_eq, compareBoth?_eq]
    exact (h₁.composes v.1 w.1 u.1).firstDifference (h₂.composes v.2 w.2 u.2)

/-- A row is compared as its first part and the row of the others. -/
theorem row {n : Nat} {γ : Fin n → Type} {part? : (i : Fin n) → γ i → γ i → Option Ordering}
    {equal : (i : Fin n) → γ i → γ i → Bool} (h : ∀ i, LawfulComparison (part? i) (equal i)) :
    LawfulComparison (compareRow? part?) (equalRow equal) := by
  induction n with
  | zero => exact of_alike
  | succ n ih =>
    exact ((h 0).both (ih fun i => h i.succ)).comap
      fun v : (i : Fin (n + 1)) → γ i => (v 0, fun i => v i.succ)

end LawfulComparison

namespace Number.Floating

variable {format : FloatFormat}

theorem compare?_eq_some {x y : Floating format} {o : Ordering} (h : x.compare? y = some o) :
    x.isNaN = false ∧ y.isNaN = false ∧ compare x.place y.place = o := by
  unfold compare? at h
  split at h
  · cases h
  · rename_i hnan
    rw [Bool.or_eq_true, not_or] at hnan
    exact ⟨by simpa using hnan.1, by simpa using hnan.2, Option.some.inj h⟩

/-- Floating-point numbers are ordered by their places, those that are not numbers left out. -/
theorem lawfulComparison (format : FloatFormat) :
    LawfulComparison (fun x y : Floating format => x.compare? y) Floating.equal where
  swap x y := by
    unfold compare?
    rw [Bool.or_comm]
    split
    · rfl
    · exact congrArg some Std.OrientedCmp.eq_swap
  eq_iff x y := by
    unfold compare? equal
    cases x.isNaN <;> cases y.isNaN <;> simp
  composes x y z o o' ho ho' hle hle' := by
    obtain ⟨hx, -, hxy⟩ := compare?_eq_some ho
    obtain ⟨-, hz, hyz⟩ := compare?_eq_some ho'
    have hplaces := LawfulComparison.of_total (compare : Int → Int → Ordering)
    have hboth := hplaces.composes x.place y.place z.place o o' (congrArg some hxy)
      (congrArg some hyz) hle hle'
    rw [compare?, hx, hz]
    exact hboth

end Number.Floating

instance lawfulEqCmp_boolToNat : Std.LawfulEqCmp (compareOn Bool.toNat) where
  compare_self := Std.ReflCmp.compare_self
  eq_of_compare {a b} h := by
    cases a <;> cases b <;> first | rfl | cases h

namespace Kind

/-- The kinds whose values are ordered. -/
def IsOrderable : Kind → Prop
  | .unit | .bool | .char | .int | .float _ | .text => True
  | .option item | .sequence _ item | .set .sorted item => item.IsOrderable
  | .map .sorted key value => key.IsOrderable ∧ value.IsOrderable
  | .tuple _ part => ∀ i, (part i).IsOrderable
  | .pointer _ target => target.IsOrderable
  | .json | .structured | .set .hashed _ | .map .hashed _ _ => False

/-- Equality looks through the pointers on its other side. -/
theorem agrees_pointer (kind : Kind) (x : kind.Value) (form : PointerForm) (target : Kind)
    (q : Pointer target.Value) :
    agrees kind x (.pointer form target) q = agrees kind x target q.target := by
  induction kind with
  | pointer form' target' ih => exact ih x.target
  | set arrangement => cases arrangement <;> rfl
  | map arrangement => cases arrangement <;> rfl
  | tuple more part => rw [agrees, agrees, bare]
  | _ => rfl

theorem equal_pointer (form : PointerForm) (target : Kind) :
    equal (.pointer form target) = fun p q => target.equal p.target q.target :=
  funext₂ fun p q => agrees_pointer target p.target form target q

theorem equal_float (format : Number.FloatFormat) :
    equal (.float format) = Number.Floating.equal := by
  funext x y
  rw [equal, agrees]
  exact dif_pos rfl

theorem equal_tuple (more : Nat) (part : Fin (more + 1) → Kind) :
    equal (.tuple more part) = equalRow fun i => (part i).equal :=
  funext₂ fun _ _ => dif_pos rfl

/-- An optional value equals another as a list of no element or of one does. -/
theorem equal_option (item : Kind) :
    equal (.option item) = fun v w => equalEach item.equal v.toList w.toList := by
  funext v w
  match v, w with
  | none, none | none, some _ | some _, none => rfl
  | some a, some b => exact (Bool.and_true (item.equal a b)).symm

theorem compare?_option (item : Kind) :
    compare? (.option item) = fun v w => compareEach? item.compare? v.toList w.toList := by
  funext v w
  match v, w with
  | none, none | none, some _ | some _, none => rfl
  | some a, some b =>
    change item.compare? a b = compareEach? item.compare? [a] [b]
    rw [compareEach?_cons_cons]
    rcases item.compare? a b with _ | (_ | _ | _) <;> rfl

theorem lawfulComparison {kind : Kind} (h : kind.IsOrderable) :
    LawfulComparison kind.compare? kind.equal := by
  induction kind with
  | unit => exact .of_alike
  | bool => exact .of_total (compareOn Bool.toNat)
  | char => exact .of_total (compareOn Char.toNat)
  | int => exact .of_total (compare : Int → Int → Ordering)
  | float format =>
    rw [equal_float]
    exact Number.Floating.lawfulComparison format
  | text => exact .of_total Text.compare
  | json | structured => cases h
  | option item ih =>
    rw [compare?_option, equal_option]
    exact (ih h).each.comap Option.toList
  | sequence form item ih => exact (ih h).each
  | set arrangement item ih =>
    cases arrangement with
    | hashed => cases h
    | sorted => exact (ih h).each
  | map arrangement key value ihKey ihValue =>
    cases arrangement with
    | hashed => cases h
    | sorted => exact ((ihKey h.1).both (ihValue h.2)).each
  | tuple more part ih =>
    rw [equal_tuple]
    exact .row fun i => ih i (h i)
  | pointer form target ih =>
    rw [equal_pointer]
    exact (ih h).comap Pointer.target

end Kind

namespace Expectation

variable {kind : Kind} {renderer : Renderer} {site : Site} {expectation : Expectation kind}

/-- An ordering check ends in the error that the two values cannot be compared. -/
def Refuses (renderer : Renderer) (site : Site) (expectation : Expectation kind)
    (relation : Relation) (operand : kind.Value) : Prop :=
  expectation.check renderer site (.ordered relation operand) =
    .error (.usage (.notComparable relation.matcher (expectation.subject renderer)
      (renderer.render kind operand)))

/-- A check passes or fails, but finds no fault with the question. -/
def Decides (renderer : Renderer) (site : Site) (expectation : Expectation kind)
    (check : Check kind) : Prop :=
  expectation.Passes renderer site check ∨ expectation.Fails renderer site check

theorem refuses_of_eq_none {operand : kind.Value}
    (h : kind.compare? expectation.value operand = none) (relation : Relation) :
    expectation.Refuses renderer site relation operand := by
  rw [Refuses, Expectation.check, compare, h]

theorem outcome_ordered {value operand : kind.Value} {order : Ordering}
    (h : kind.compare? value operand = some order) (relation : Relation) :
    (Check.ordered relation operand).outcome value = .ok (relation.accepts order) := by
  rw [Check.outcome, h]

/-- No ordering check between the values of two expectations can be answered, whichever of them is
asked and under either polarity, and the values are not equal. -/
structure Incomparable (renderer : Renderer) (site : Site) (left right : Expectation kind) :
    Prop where
  forth (relation : Relation) : left.Refuses renderer site relation right.value ∧
    left.not.Refuses renderer site relation right.value
  back (relation : Relation) : right.Refuses renderer site relation left.value ∧
    right.not.Refuses renderer site relation left.value
  unequal : left.Fails renderer site (.equal kind right.value)

/-- Every ordering check between the values of two expectations is decided, one of greater, less and
equal passes and the other two fail, each check that admits equality is the opposite of a strict one,
and a strict one turns round with its sides. -/
structure Ordered (renderer : Renderer) (site : Site) (left right : Expectation kind) : Prop where
  forth (relation : Relation) : left.Decides renderer site (.ordered relation right.value) ∧
    left.not.Decides renderer site (.ordered relation right.value)
  back (relation : Relation) : right.Decides renderer site (.ordered relation left.value) ∧
    right.not.Decides renderer site (.ordered relation left.value)
  trichotomy :
    (left.Passes renderer site (.ordered .greater right.value) ∧
      left.Fails renderer site (.ordered .less right.value) ∧
      left.Fails renderer site (.equal kind right.value)) ∨
    (left.Fails renderer site (.ordered .greater right.value) ∧
      left.Passes renderer site (.ordered .less right.value) ∧
      left.Fails renderer site (.equal kind right.value)) ∨
    (left.Fails renderer site (.ordered .greater right.value) ∧
      left.Fails renderer site (.ordered .less right.value) ∧
      left.Passes renderer site (.equal kind right.value))
  greaterOrEqual : left.Passes renderer site (.ordered .greaterOrEqual right.value) ↔
    left.Fails renderer site (.ordered .less right.value)
  lessOrEqual : left.Passes renderer site (.ordered .lessOrEqual right.value) ↔
    left.Fails renderer site (.ordered .greater right.value)
  turned : left.Passes renderer site (.ordered .less right.value) ↔
    right.Passes renderer site (.ordered .greater left.value)

variable {left right : Expectation kind}

theorem incomparable_of_eq_none (laws : LawfulComparison kind.compare? kind.equal)
    (hplain : left.negated = false) (h : kind.compare? left.value right.value = none) :
    Incomparable renderer site left right where
  forth relation := by
    have hnot : kind.compare? left.not.value right.value = none := h
    exact ⟨refuses_of_eq_none h relation, refuses_of_eq_none hnot relation⟩
  back relation := by
    have hback : kind.compare? right.value left.value = none := by
      rw [laws.swap left.value, h, Option.map_none]
    have hnot : kind.compare? right.not.value left.value = none := hback
    exact ⟨refuses_of_eq_none hback relation, refuses_of_eq_none hnot relation⟩
  unequal := by
    have hne : kind.equal left.value right.value = false := by
      rw [← Bool.not_eq_true, ← laws.eq_iff, h]
      exact Option.some_ne_none _ ∘ Eq.symm
    exact (fails_iff_of_plain hplain rfl).mpr hne

theorem ordered_of_eq_some (laws : LawfulComparison kind.compare? kind.equal)
    (hleft : left.negated = false) (hright : right.negated = false) {order : Ordering}
    (h : kind.compare? left.value right.value = some order) : Ordered renderer site left right := by
  have hforth := outcome_ordered h
  have hback : ∀ relation, (Check.ordered relation left.value).outcome right.value =
      .ok (relation.accepts order.swap) :=
    outcome_ordered (by rw [laws.swap left.value, h, Option.map_some])
  have hequal : (Check.equal kind right.value).outcome left.value = .ok (order == .eq) := by
    have heq : kind.equal left.value right.value = (order == .eq) := by
      rw [Bool.eq_iff_iff, ← laws.eq_iff, h, Option.some.injEq, beq_iff_eq]
    exact congrArg Except.ok heq
  constructor
  case forth =>
    exact fun relation => ⟨passes_or_fails (hforth relation), passes_or_fails (hforth relation)⟩
  case back =>
    exact fun relation => ⟨passes_or_fails (hback relation), passes_or_fails (hback relation)⟩
  all_goals
    simp only [passes_iff_of_plain hleft (hforth _), fails_iff_of_plain hleft (hforth _),
      passes_iff_of_plain hleft hequal, fails_iff_of_plain hleft hequal,
      passes_iff_of_plain hright (hback _)]
    cases order <;> decide

theorem passes_less_iff {operand : kind.Value} (hplain : expectation.negated = false) :
    expectation.Passes renderer site (.ordered .less operand) ↔
      kind.compare? expectation.value operand = some .lt := by
  cases h : kind.compare? expectation.value operand with
  | none =>
    have hrefuses : expectation.Refuses renderer site .less operand := refuses_of_eq_none h .less
    rw [Passes, hrefuses]
    simp
  | some order =>
    rw [passes_iff_of_plain hplain (outcome_ordered h .less)]
    cases order <;> decide

end Expectation

/-- The ordering checks and the equality check of two values come from one order: the values are
incomparable for all of them or ordered for all of them. What passes as less than a second value
passes as less than everything that the second passes as less than. -/
theorem ordering_checks_consistent {kind : Kind} (orderable : kind.IsOrderable)
    (a b c : kind.Value) (renderer : Renderer) (site : Site) (label label' : Option String) :
    let left : Expectation kind := .ofValue a label
    let right : Expectation kind := .ofValue b label'
    (left.Incomparable renderer site right ∨ left.Ordered renderer site right) ∧
    (left.Passes renderer site (.ordered .less b) →
      right.Passes renderer site (.ordered .less c) →
      left.Passes renderer site (.ordered .less c)) := by
  intro left right
  have laws := Kind.lawfulComparison orderable
  refine ⟨?_, fun hab hbc => ?_⟩
  · cases h : kind.compare? a b with
    | none => exact Or.inl (Expectation.incomparable_of_eq_none laws rfl h)
    | some order => exact Or.inr (Expectation.ordered_of_eq_some laws rfl rfl h)
  · have hleft : left.negated = false := rfl
    have hright : right.negated = false := rfl
    rw [Expectation.passes_less_iff hleft] at hab ⊢
    rw [Expectation.passes_less_iff hright] at hbc
    exact laws.composes a b c .lt .lt hab hbc rfl rfl

/-- Lists that differ in their first element are ordered whatever comes after it, and so is what lies
above them. -/
theorem ordering_checks_consistent_unreached :
    let kind : Kind := .sequence .vector (.float .double)
    let number (magnitude : Nat) : Number.Floating .double := ⟨false, magnitude⟩
    let notNumber := number Number.FloatFormat.double.quiet
    let left : Expectation kind := .ofValue [number 1, notNumber] none
    let right : Expectation kind := .ofValue [number 2, notNumber] (some "right")
    let site : Site := ⟨"tests/order.rs", 8⟩
    kind.IsOrderable ∧
    left.Ordered .initial site right ∧
    left.Passes .initial site (.ordered .less right.value) ∧
    right.Passes .initial site (.ordered .less [number 3]) ∧
    left.Passes .initial site (.ordered .less [number 3]) := by
  intro kind number notNumber left right site
  have hleft : left.Passes .initial site (.ordered .less right.value) := rfl
  have hright : right.Passes .initial site (.ordered .less [number 3]) := rfl
  have orderable : kind.IsOrderable := trivial
  -- the lists cannot be incomparable, for one of their checks passes
  obtain ⟨hincomparable | hordered, htrans⟩ := ordering_checks_consistent orderable left.value
    right.value [number 3] .initial site none (some "right")
  · cases (hincomparable.forth .less).1
  · exact ⟨orderable, hordered, hleft, hright, htrans hleft hright⟩

end Attest
