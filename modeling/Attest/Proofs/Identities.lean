import Attest.Proofs.HeapPointers
import Attest.Proofs.SelfComparison

/-!
# Identity of handles

A handle is a value of a kind that has an identity: a number, a character or another value without parts,
a pointer into a heap, or an option of handles. Where a pointer leads decides what lies there, so two
handles are the same exactly when nothing tells them apart. Sameness is finer than equality: it parts equal
objects, equal ranges that are not empty and the two zeros, and joins only what is no number to itself.
-/

namespace Attest

namespace Kind

/-- The kinds of values without parts. -/
def IsScalar : Kind → Prop
  | .unit | .bool | .char | .int | .float _ => True
  | _ => False

/-- The kinds whose values have an identity. -/
def HasIdentity : Kind → Prop
  | .option item => item.HasIdentity
  | .pointer form _ => form ≠ .owned
  | kind => kind.IsScalar

/-- The kinds of values without parts, but for floating-point values, and of options of these. -/
def IsExact : Kind → Prop
  | .unit | .bool | .char | .int => True
  | .option item => item.IsExact
  | _ => False

/-- Which of the options around a value are present, the outermost first. -/
def presence : (kind : Kind) → kind.Value → List Bool
  | .option item, v => match v with
    | none => [false]
    | some x => true :: presence item x
  | _, _ => []

/-- A value of a kind that has an identity, and the kind and the spot of what it leads to, if it does. -/
inductive Handle (store : Store) : (kind : Kind) → kind.Value → Option (Kind × Spot) → Prop where
  | scalar {kind : Kind} (h : kind.IsScalar) (value : kind.Value) : Handle store kind value none
  | absent {item : Kind} (h : item.HasIdentity) : Handle store (.option item) none none
  | present {item : Kind} {value : item.Value} {leads : Option (Kind × Spot)}
    (h : Handle store item value leads) : Handle store (.option item) (some value) leads
  | pointer {form : PointerForm} {target : Kind} {p : Pointer target.Value} {spot : Spot}
    (h : store.pointer? form target spot = some p) :
    Handle store (.pointer form target) p (some (target, spot))

variable {store : Store} {kind : Kind} {x y : kind.Value} {leads leads' : Option (Kind × Spot)}

theorem same_pointer {form : PointerForm} {target : Kind} (h : form ≠ .owned)
    (p q : Pointer target.Value) :
    same (.pointer form target) p q = (p.location == q.location) := by
  cases form with
  | owned => exact absurd rfl h
  | _ => rfl

theorem Handle.same_self (h : Handle store kind x leads) : kind.same x x = true := by
  induction h with
  | @scalar kind h value =>
    cases kind with
    | unit => rfl
    | bool | char | int | float => exact beq_self_eq_true value
    | _ => cases h
  | absent h => rfl
  | present h ih => exact ih
  | pointer h => rw [same_pointer (Store.form_ne_owned h), beq_self_eq_true]

/-- Nothing tells handles apart that are the same. -/
theorem Handle.eq_of_same (hx : Handle store kind x leads) (hy : Handle store kind y leads')
    (h : kind.same x y = true) : x = y := by
  -- the kind decides what else the other handle can be, at each option anew
  induction hx generalizing leads' with
  | @scalar kind hscalar value =>
    cases kind with
    | unit => rfl
    | bool | char | int | float => exact eq_of_beq h
    | _ => cases hscalar
  | absent =>
    cases y with
    | none => rfl
    | some b => cases h
  | present hx ih =>
    cases hy with
    | scalar hscalar => cases hscalar
    | absent => cases h
    | present hy => exact congrArg some (ih hy h)
  | pointer hp =>
    cases hy with
    | scalar hscalar => cases hscalar
    | pointer hq =>
      rw [same_pointer (Store.form_ne_owned hp), beq_iff_eq] at h
      exact Store.eq_of_location_eq hp hq h

theorem Handle.same_iff (hx : Handle store kind x leads) (hy : Handle store kind y leads') :
    kind.same x y = true ↔ x = y :=
  ⟨hx.eq_of_same hy, fun h => h ▸ hx.same_self⟩

/-- A handle leads to one spot, unless to parts of an object that takes no room. -/
theorem Handle.spot_eq {target target' : Kind} {spot spot' : Spot} (h : Handle store kind x leads)
    (h' : Handle store kind x leads') (hleads : leads = some (target, spot))
    (hleads' : leads' = some (target', spot')) (hoccupied : store.Occupied target spot) :
    spot = spot' := by
  induction h with
  | scalar | absent => cases hleads
  | present h ih =>
    cases h' with
    | scalar hscalar => cases hscalar
    | present h' => exact ih h' hleads
  | pointer hp =>
    cases h' with
    | scalar hscalar => cases hscalar
    | pointer hq =>
      cases hleads
      cases hleads'
      exact (Store.spot_eq_of_location_eq hp hq rfl).resolve_right fun hempty => hempty.1 hoccupied

theorem Handle.occupied {target : Kind} {spot : Spot} (h : Handle store kind x leads)
    (hleads : leads = some (target, spot)) (hroom : target.TakesRoom) (hne : ¬ spot.IsEmpty) :
    store.Occupied target spot := by
  induction h with
  | scalar | absent => cases hleads
  | present h ih => exact ih hleads
  | pointer hp =>
    cases hleads
    exact Store.occupied_of_not_isEmpty hp hroom hne

/-- Handles to different spots are different, unless there is nothing at the spots. -/
theorem Handle.same_eq_false {target target' : Kind} {spot spot' : Spot}
    (hx : Handle store kind x (some (target, spot))) (hy : Handle store kind y (some (target', spot')))
    (hdiffer : spot ≠ spot') (hroom : target.TakesRoom) (hne : ¬ spot.IsEmpty) :
    kind.same x y = false := by
  rw [← Bool.not_eq_true, hx.same_iff hy]
  rintro rfl
  exact hdiffer (hx.spot_eq hy rfl rfl (hx.occupied rfl hroom hne))

theorem Handle.equal_of_same (hx : Handle store kind x leads) (hy : Handle store kind y leads')
    (hnumbers : kind.holdsNaN x = false) (h : kind.same x y = true) : kind.equal x y = true := by
  rw [← hx.eq_of_same hy h]
  exact kind.reflexiveExcept.self x hnumbers

theorem same_eq_equal (h : kind.IsExact) (x y : kind.Value) : kind.same x y = kind.equal x y := by
  induction kind with
  | option item ih =>
    match x, y with
    | none, none | none, some _ | some _, none => rfl
    | some a, some b => exact ih h a b
  | unit | bool | char | int => rfl
  | _ => cases h

end Kind

namespace Number.Floating

variable {format : FloatFormat} {u v : Floating format}

theorem isNaN_of_isZero (h : u.isZero = true) : u.isNaN = false := by
  rw [isZero, beq_iff_eq] at h
  rw [isNaN, h]
  rfl

theorem place_eq_iff_of_ne (h : u ≠ v) :
    u.place = v.place ↔ u.isZero = true ∧ v.isZero = true ∧ u.negative ≠ v.negative := by
  obtain ⟨negative, magnitude⟩ := u
  obtain ⟨negative', magnitude'⟩ := v
  have hparts : negative = negative' → magnitude ≠ magnitude' := by
    rintro rfl rfl
    exact h rfl
  cases negative <;> cases negative' <;> simp [place, isZero] at hparts ⊢ <;> omega

theorem equal_iff_of_ne (h : u ≠ v) :
    u.equal v = true ↔ u.isZero = true ∧ v.isZero = true ∧ u.negative ≠ v.negative := by
  rw [equal, Bool.and_eq_true, Bool.and_eq_true, beq_iff_eq, place_eq_iff_of_ne h]
  refine ⟨And.right, fun hzeros => ⟨?_, hzeros⟩⟩
  rw [isNaN_of_isZero hzeros.1, isNaN_of_isZero hzeros.2.1]
  exact ⟨rfl, rfl⟩

/-- Floating-point values are the same and not equal where they are one value that is no number, and
equal and not the same where they are the two zeros. -/
theorem beq_ne_equal_iff (u v : Floating format) :
    (u == v) ≠ u.equal v ↔
      (u = v ∧ u.isNaN = true) ∨ (u.isZero = true ∧ v.isZero = true ∧ u.negative ≠ v.negative) := by
  by_cases huv : u = v
  · subst huv
    cases hnan : u.isNaN <;> simp [equal, hnan]
  · rw [beq_false_of_ne huv, ne_comm, Bool.ne_false_iff, equal_iff_of_ne huv]
    exact ⟨Or.inr, fun h => h.resolve_left fun hnan => huv hnan.1⟩

end Number.Floating

namespace Expectation

variable {kind : Kind} {renderer : Renderer} {site : Site} {expectation : Expectation kind}
  {y : kind.Value}

theorem passes_same_iff : expectation.Passes renderer site (.same y) ↔
    kind.same expectation.value y ≠ expectation.negated := passes_iff rfl

theorem passes_equal_iff : expectation.Passes renderer site (.equal kind y) ↔
    kind.equal expectation.value y ≠ expectation.negated := passes_iff rfl

/-- Where the same values are equal, passing for the same is passing for equal, and under the other
polarity the other way round. -/
theorem passes_of_same_imp_equal (renderer : Renderer) (site : Site)
    (himp : kind.same expectation.value y = true → kind.equal expectation.value y = true) :
    (expectation.negated = false → expectation.Passes renderer site (.same y) →
      expectation.Passes renderer site (.equal kind y)) ∧
    (expectation.negated = true → expectation.Passes renderer site (.equal kind y) →
      expectation.Passes renderer site (.same y)) := by
  rw [passes_same_iff, passes_equal_iff]
  constructor
  · intro hplain hsame
    rw [hplain, Bool.ne_false_iff] at *
    exact himp hsame
  · intro hnegated hunequal hsame
    rw [hnegated] at *
    exact hunequal (himp hsame)

theorem derive_ofValue_negated (value : kind.Value) (label : Option String) (steps : List Derivation) :
    ((ofValue value label).derive steps).negated = decide (Odd (steps.count .negation)) :=
  (derive_negated _ steps).trans (Bool.false_xor _)

end Expectation

/-- What sameness tells of three handles, of which the first two lead to the given spots. -/
structure Kind.SamenessLaws (kind : Kind) (x y z : kind.Value) (leads leads' : Option (Kind × Spot)) :
    Prop where
  refl : kind.same x x = true
  symm : kind.same x y = kind.same y x
  trans : kind.same x y = true → kind.same y z = true → kind.same x z = true
  /-- Nothing absent is the same as anything present, at any depth. -/
  presence_eq : kind.same x y = true → kind.presence x = kind.presence y
  /-- Handles to different spots are different where the objects take room and there is something at the
  spot of one of them. -/
  apart : ∀ (target : Kind) (spot : Spot) (target' : Kind) (spot' : Spot),
    leads = some (target, spot) → leads' = some (target', spot') → spot ≠ spot' →
      target.TakesRoom → ¬ spot.IsEmpty → kind.same x y = false

/-- How the verdicts for the same value and for an equal one go together, for an expectation on a value
after some derivations. -/
structure Expectation.SameRefinesEqual {kind : Kind} (x y : kind.Value) (renderer : Renderer) (site : Site)
    (label : Option String) (steps : List Derivation) : Prop where
  of_even : kind.holdsNaN x = false → Even (steps.count .negation) →
    ((ofValue x label).derive steps).Passes renderer site (.same y) →
      ((ofValue x label).derive steps).Passes renderer site (.equal kind y)
  of_odd : kind.holdsNaN x = false → Odd (steps.count .negation) →
    ((ofValue x label).derive steps).Passes renderer site (.equal kind y) →
      ((ofValue x label).derive steps).Passes renderer site (.same y)
  /-- The verdicts are one for values without parts, and options of these, other than floating-point
  values. -/
  of_isExact : kind.IsExact → ((ofValue x label).derive steps).SameVerdict renderer site site (.same y)
    ((ofValue x label).derive steps) (.equal kind y)
  /-- Of floating-point values they differ for one that is no number against itself and for the two
  zeros. -/
  floating_iff : ∀ (format : Number.FloatFormat) (u v : Number.Floating format),
    let expectation : Expectation (.float format) := (ofValue u label).derive steps
    ¬ (expectation.Passes renderer site (.same v) ↔
        expectation.Passes renderer site (.equal (.float format) v)) ↔
      (u = v ∧ u.isNaN = true) ∨ (u.isZero = true ∧ v.isZero = true ∧ u.negative ≠ v.negative)

theorem Kind.Handle.samenessLaws {store : Store} {kind : Kind} {x y z : kind.Value}
    {a b c : Option (Kind × Spot)} (hx : Handle store kind x a) (hy : Handle store kind y b)
    (hz : Handle store kind z c) : kind.SamenessLaws x y z a b where
  refl := hx.same_self
  symm := by
    rw [Bool.eq_iff_iff, hx.same_iff hy, hy.same_iff hx]
    exact eq_comm
  trans := by
    rw [hx.same_iff hy, hy.same_iff hz, hx.same_iff hz]
    exact Eq.trans
  presence_eq := by
    rw [hx.same_iff hy]
    exact congrArg _
  apart := by
    rintro target spot target' spot' rfl rfl
    exact hx.same_eq_false hy

theorem Expectation.sameRefinesEqual {kind : Kind} {x y : kind.Value} (renderer : Renderer) (site : Site)
    (label : Option String) (steps : List Derivation)
    (himp : kind.holdsNaN x = false → kind.same x y = true → kind.equal x y = true) :
    SameRefinesEqual x y renderer site label steps := by
  have hnegated := derive_ofValue_negated x label steps
  have himp' (hnumbers : kind.holdsNaN x = false)
      (hsame : kind.same ((ofValue x label).derive steps).value y = true) :
      kind.equal ((ofValue x label).derive steps).value y = true := by
    have hvalue : ((ofValue x label).derive steps).value = x := derive_value _ steps
    rw [hvalue] at hsame ⊢
    exact himp hnumbers hsame
  have hpasses (hnumbers : kind.holdsNaN x = false) :=
    passes_of_same_imp_equal renderer site (himp' hnumbers)
  refine ⟨fun hnumbers h => (hpasses hnumbers).1 ?_, fun hnumbers h => (hpasses hnumbers).2 ?_, ?_, ?_⟩
  · rw [hnegated, decide_eq_false (Nat.not_odd_iff_even.mpr h)]
  · rw [hnegated, decide_eq_true h]
  · intro hexact
    refine sameVerdict_of_outcome rfl rfl ?_
    rw [Kind.same_eq_equal hexact]
    rfl
  · intro format u v expectation
    have hu : expectation.value = u := derive_value _ steps
    have hsame : Kind.same (.float format) u v = (u == v) := rfl
    rw [passes_same_iff, passes_equal_iff, hu, hsame, Kind.equal_float,
      ← Number.Floating.beq_ne_equal_iff]
    cases (u == v) <;> cases u.equal v <;> cases expectation.negated <;> decide

/-- Identity is an equivalence that refines equality. Of handles of one kind into one store, each is the
same as itself, and sameness can be turned round and composed. It relates nothing absent to anything
present at any depth, and no handles to different spots of objects that take room, but for empty ranges.
Unless something in a value is no number, an expectation on it that passes for the same passes for equal
under an even number of negations, and the other way round under an odd one. The two checks have one
verdict for values without parts, and options of these, that are not floating-point values; of
floating-point values it differs exactly for one that is no number against itself and for the two zeros. -/
theorem identity_refines_equality {store : Store} {kind : Kind} {x y z : kind.Value}
    {a b c : Option (Kind × Spot)} (hx : Kind.Handle store kind x a) (hy : Kind.Handle store kind y b)
    (hz : Kind.Handle store kind z c) (renderer : Renderer) (site : Site) (label : Option String)
    (steps : List Derivation) :
    kind.SamenessLaws x y z a b ∧ Expectation.SameRefinesEqual x y renderer site label steps :=
  ⟨hx.samenessLaws hy hz, Expectation.sameRefinesEqual renderer site label steps (hx.equal_of_same hy)⟩

/-- A slice is the same as itself behind two present options, and equal but not the same as a slice of an
equal list. -/
theorem identity_refines_equality_equal_lists :
    let store : Store := fun kind => match kind with
      | .sequence .slice .int => ⟨[[1, 2, 3], [1, 2, 3]]⟩
      | _ => ⟨[]⟩
    let target : Kind := .sequence .slice .int
    let kind : Kind := .option (.option (.pointer .borrowed target))
    let x : kind.Value := some (some ⟨.range 0 1 2, [2, 3]⟩)
    let y : kind.Value := some (some ⟨.range 1 1 2, [2, 3]⟩)
    let expectation : Expectation kind := (Expectation.ofValue x none).derive [.negation]
    let site : Site := ⟨"tests/cart.rs", 9⟩
    Kind.Handle store kind x (some (target, .parts 0 1 3)) ∧
    Kind.Handle store kind y (some (target, .parts 1 1 3)) ∧
    kind.same x x = true ∧ kind.same x y = false ∧ kind.equal x y = true ∧
    (expectation.Passes .initial site (.equal kind y) → expectation.Passes .initial site (.same y)) := by
  intro store target kind x y expectation site
  have hx : Kind.Handle store kind x (some (target, .parts 0 1 3)) := .present (.present (.pointer rfl))
  have hy : Kind.Handle store kind y (some (target, .parts 1 1 3)) := .present (.present (.pointer rfl))
  obtain ⟨hlaws, hverdicts⟩ := identity_refines_equality hx hy hy .initial site none [.negation]
  have hrange : ¬ (Spot.parts 0 1 3).IsEmpty := show 1 ≠ 3 by decide
  exact ⟨hx, hy, hlaws.refl, hlaws.apart _ _ _ _ rfl rfl (by decide) trivial hrange, by decide,
    hverdicts.of_odd (by decide) (by decide)⟩

end Attest
