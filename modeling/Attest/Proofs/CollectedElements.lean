import Attest.Proofs.ConsistentOrder
import Attest.Proofs.DocumentContents
import Attest.Proofs.SortedCollections
import Attest.Proofs.TruthAndLength
import Mathlib.Data.Set.Card

/-!
# Elements of collections

A list of elements can be held as a sequence, as a set, or as the keys of a map, without order or sorted.
Sequences keep it as it is. Sets and maps keep each element once, found by a search that depends on how
they hold them, and where there is an order they hold them ascending. Of the list they know nothing but
which elements it has, so they all answer alike when they are asked for one, and they differ from a
sequence in length only by what the list repeats.
-/

namespace Attest

theorem LawfulComparison.transCmp {α : Type} {cmp : α → α → Ordering} {equal : α → α → Bool}
    (h : LawfulComparison (fun x y => some (cmp x y)) equal) : Std.TransCmp cmp where
  eq_swap {x y} := Option.some.inj (h.swap y x)
  isLE_trans {x y z} hxy hyz := by
    have hxz : cmp x z = (cmp x y).then (cmp y z) :=
      Option.some.inj (h.composes x y z _ _ rfl rfl hxy hyz)
    rw [hxz]
    cases hc : cmp x y with
    | lt => rfl
    | eq => exact hyz
    | gt =>
      rw [hc] at hxy
      cases hxy

namespace Kind

/-! ### Elements of sets -/

/-- The kinds whose values can be elements of sets, hashed or sorted. -/
def IsKey : Kind → Prop
  | .unit | .bool | .char | .int | .text => True
  | .option item => item.IsKey
  | .tuple _ part => ∀ i, (part i).IsKey
  | .pointer _ target => target.IsKey
  | .float _ | .json | .structured | .sequence _ _ | .set _ _ | .map _ _ _ => False

/-- A kind with the pointers in options and tuples left out. -/
@[reducible] def direct : Kind → Kind
  | .option item => .option item.direct
  | .tuple more part => .tuple more fun i => (part i).direct
  | .pointer _ target => target.direct
  | kind => kind

/-- What a value is when the pointers in it are looked through, wherever they lead. -/
def content : (kind : Kind) → kind.Value → kind.direct.Value
  | .option item, v => v.map (content item)
  | .tuple _ part, v => fun i => content (part i) (v i)
  | .pointer _ target, p => content target p.target
  | .unit, v => v
  | .bool, v => v
  | .char, v => v
  | .int, v => v
  | .float _, v => v
  | .text, v => v
  | .json, v => v
  | .structured, v => v
  | .sequence _ _, v => v
  | .set _ _, v => v
  | .map _ _ _, v => v

/-- The order of two values that have one. -/
def order (kind : Kind) (x y : kind.Value) : Ordering :=
  (kind.compare? x y).getD .eq

variable {kind : Kind}

theorem IsKey.isOrderable (h : kind.IsKey) : kind.IsOrderable := by
  induction kind with
  | option item ih => exact ih h
  | tuple more part ih => exact fun i => ih i (h i)
  | pointer form target ih => exact ih h
  | unit | bool | char | int | text => trivial
  | _ => cases h

theorem IsKey.equal_iff (h : kind.IsKey) (x y : kind.Value) :
    kind.equal x y = true ↔ kind.content x = kind.content y := by
  induction kind with
  | unit => exact iff_of_true rfl rfl
  | bool | char | int | text => exact beq_iff_eq
  | option item ih =>
    cases x with
    | none => cases y <;> simp [equal_option, equalEach, content]
    | some a =>
      cases y with
      | none => simp [equal_option, equalEach, content]
      | some b => simp [equal_option, equalEach, content, ih h]
  | tuple more part ih =>
    rw [equal_tuple, equalRow_iff, content, content, funext_iff]
    exact forall_congr' fun i => ih i (h i) (x i) (y i)
  | pointer form target ih =>
    rw [equal_pointer]
    exact ih h x.target y.target
  | _ => cases h

theorem isSome_compareRow? {n : Nat} {α : Fin n → Type}
    {part? : (i : Fin n) → α i → α i → Option Ordering}
    (h : ∀ i a b, (part? i a b).isSome) (v w : (i : Fin n) → α i) :
    (compareRow? part? v w).isSome := by
  induction n with
  | zero => rfl
  | succ n ih =>
    obtain ⟨o, ho⟩ := Option.isSome_iff_exists.mp (h 0 (v 0) (w 0))
    rw [compareRow?_succ, ho]
    cases o with
    | eq => exact ih (fun i => h i.succ) _ _
    | _ => rfl

theorem IsKey.compare?_eq (h : kind.IsKey) :
    kind.compare? = fun x y => some (kind.order x y) := by
  have htotal : ∀ x y, (kind.compare? x y).isSome := by
    induction kind with
    | unit | bool | char | int | text => exact fun _ _ => rfl
    | option item ih =>
      intro x y
      match x, y with
      | none, none | none, some _ | some _, none => rfl
      | some a, some b => exact ih h a b
    | tuple more part ih => exact isSome_compareRow? fun i => ih i (h i)
    | pointer form target ih => exact fun x y => ih h x.target y.target
    | _ => cases h
  funext x y
  obtain ⟨o, ho⟩ := Option.isSome_iff_exists.mp (htotal x y)
  rw [order, ho, Option.getD_some]

theorem IsKey.transCmp (h : kind.IsKey) : Std.TransCmp kind.order := by
  have hlawful := lawfulComparison h.isOrderable
  rw [h.compare?_eq] at hlawful
  exact hlawful.transCmp

theorem IsKey.order_eq_iff (h : kind.IsKey) (x y : kind.Value) :
    kind.order x y = .eq ↔ kind.content x = kind.content y := by
  have hlawful := (lawfulComparison h.isOrderable).eq_iff x y
  rw [← h.equal_iff, ← hlawful, h.compare?_eq, Option.some.injEq]

/-! ### What a set keeps of a list -/

/-- A list has what a set keeps of another one: the same elements, each once, and ascending if the set
is sorted. -/
structure Collects (kind : Kind) (arrangement : Arrangement) (xs zs : List kind.Value) : Prop where
  mem_iff : ∀ c, c ∈ zs.map kind.content ↔ c ∈ xs.map kind.content
  nodup : (zs.map kind.content).Nodup
  ascending : arrangement = .sorted → Ascending kind.order zs

section insertion

variable {x : kind.Value} {zs : List kind.Value}

theorem IsKey.mem_insertHashed (h : kind.IsKey) (c : kind.direct.Value) :
    c ∈ (insertHashed kind.equal x zs).map kind.content ↔
      c = kind.content x ∨ c ∈ zs.map kind.content := by
  induction zs with
  | nil => simp [insertHashed]
  | cons z zs ih =>
    rw [insertHashed]
    split
    · rename_i heq
      have hcontent := (h.equal_iff x z).mp heq
      simp [hcontent]
    · rw [List.map_cons, List.mem_cons, ih, List.map_cons, List.mem_cons]
      exact or_left_comm

theorem IsKey.nodup_insertHashed (h : kind.IsKey) (hzs : (zs.map kind.content).Nodup) :
    ((insertHashed kind.equal x zs).map kind.content).Nodup := by
  induction zs with
  | nil => simp [insertHashed]
  | cons z zs ih =>
    obtain ⟨hz, hrest⟩ := List.nodup_cons.mp hzs
    rw [insertHashed]
    split
    · exact hzs
    · rename_i hne
      refine List.nodup_cons.mpr ⟨?_, ih hrest⟩
      rw [h.mem_insertHashed, not_or]
      exact ⟨fun heq => hne ((h.equal_iff x z).mpr heq.symm), hz⟩

theorem IsKey.mem_insertSorted (h : kind.IsKey) (c : kind.direct.Value) :
    c ∈ (insertSorted kind.compare? x zs).map kind.content ↔
      c = kind.content x ∨ c ∈ zs.map kind.content := by
  induction zs with
  | nil => simp [insertSorted]
  | cons z zs ih =>
    rw [insertSorted]
    split
    · simp
    · rename_i heq
      rw [h.compare?_eq, Option.some.injEq, h.order_eq_iff] at heq
      simp [heq]
    · rw [List.map_cons, List.mem_cons, ih, List.map_cons, List.mem_cons]
      exact or_left_comm

/-- What ascends holds no element twice. -/
theorem IsKey.nodup_of_ascending (h : kind.IsKey) (hzs : Ascending kind.order zs) :
    (zs.map kind.content).Nodup := by
  refine List.pairwise_map.mpr (hzs.imp ?_)
  intro x y hlt heq
  rw [(h.order_eq_iff x y).mpr heq] at hlt
  cases hlt

end insertion

/-- What is inserted one after the other is what is there in the end. -/
theorem mem_map_foldl_insert {α γ : Type} (f : α → γ) {insert : List α → α → List α}
    (hinsert : ∀ zs x c, c ∈ (insert zs x).map f ↔ c = f x ∨ c ∈ zs.map f) (xs zs : List α) (c : γ) :
    c ∈ (xs.foldl insert zs).map f ↔ c ∈ xs.map f ∨ c ∈ zs.map f := by
  induction xs generalizing zs with
  | nil => simp
  | cons x xs ih =>
    rw [List.foldl_cons, ih, hinsert, List.map_cons, List.mem_cons]
    tauto

theorem IsKey.collects_setOf (h : kind.IsKey) (arrangement : Arrangement) (xs : List kind.Value) :
    kind.Collects arrangement xs (setOf arrangement kind xs) := by
  cases arrangement with
  | hashed =>
    have hmem := mem_map_foldl_insert kind.content (fun zs x => @h.mem_insertHashed kind x zs) xs []
    have hnodup : ((setOf .hashed kind xs).map kind.content).Nodup := by
      refine List.foldlRecOn xs _ (motive := fun zs => (List.map kind.content zs).Nodup)
        List.nodup_nil ?_
      intro zs hzs x _
      exact h.nodup_insertHashed hzs
    refine ⟨fun c => ?_, hnodup, fun hsorted => nomatch hsorted⟩
    exact (hmem c).trans (or_iff_left List.not_mem_nil)
  | sorted =>
    have htrans := h.transCmp
    have hmem := mem_map_foldl_insert kind.content (fun zs x => @h.mem_insertSorted kind x zs) xs []
    have hascending : Ascending kind.order (setOf .sorted kind xs) := ascending_setOf h.compare?_eq xs
    refine ⟨fun c => ?_, h.nodup_of_ascending hascending, fun _ => hascending⟩
    exact (hmem c).trans (or_iff_left List.not_mem_nil)

/-- Two lists have the same elements, whatever their order and however often they repeat them. -/
def SameElements (kind : Kind) (xs ys : List kind.Value) : Prop :=
  ∀ c, c ∈ xs.map kind.content ↔ c ∈ ys.map kind.content

/-- The number of different elements of a list. -/
noncomputable def distinctCount (kind : Kind) (xs : List kind.Value) : Nat :=
  {c | c ∈ xs.map kind.content}.ncard

theorem ncard_mem {α : Type} {xs : List α} (h : xs.Nodup) : {x | x ∈ xs}.ncard = xs.length := by
  classical
  rw [← List.coe_toFinset, Set.ncard_coe_finset, List.toFinset_card_of_nodup h]

/-- Every element of a list is a different one exactly when the list repeats none. -/
theorem distinctCount_eq_length_iff (xs : List kind.Value) :
    kind.distinctCount xs = xs.length ↔ (xs.map kind.content).Nodup := by
  classical
  have hlength : (xs.map kind.content).length = xs.length := List.length_map _
  rw [distinctCount, ← List.coe_toFinset, Set.ncard_coe_finset, List.card_toFinset, ← hlength]
  constructor
  · intro h
    rw [← (List.dedup_sublist (xs.map kind.content)).eq_of_length h]
    exact List.nodup_dedup _
  · intro h
    rw [h.dedup]

theorem distinctCount_congr {xs ys : List kind.Value} (h : kind.SameElements xs ys) :
    kind.distinctCount xs = kind.distinctCount ys :=
  congrArg Set.ncard (Set.ext h)

namespace Collects

variable {arrangement : Arrangement} {xs ys zs ws : List kind.Value}

theorem length_eq (h : kind.Collects arrangement xs zs) : zs.length = kind.distinctCount xs := by
  have hsame := distinctCount_congr h.mem_iff
  rw [← hsame, distinctCount, ncard_mem h.nodup, List.length_map]

/-- The search of a set or map finds the elements of the list it was made of. -/
theorem hasElement_iff (hkey : kind.IsKey) (h : kind.Collects arrangement xs zs) (x : kind.Value) :
    hasElement arrangement kind x zs = true ↔ kind.content x ∈ xs.map kind.content := by
  rw [← h.mem_iff, List.mem_map]
  cases arrangement with
  | hashed =>
    rw [hasElement, List.any_eq_true]
    exact exists_congr fun y => and_congr_right fun _ => hkey.equal_iff y x
  | sorted =>
    have htrans := hkey.transCmp
    rw [hasElement, hkey.compare?_eq, hasSorted_iff_exists (h.ascending rfl)]
    exact exists_congr fun y => and_congr_right fun _ => (hkey.order_eq_iff x y).trans eq_comm

end Collects

/-- Contents are ordered as values that have them are. -/
def ContentBefore (kind : Kind) (c d : kind.direct.Value) : Prop :=
  ∃ x y, kind.content x = c ∧ kind.content y = d ∧ kind.order x y = .lt

theorem IsKey.contentBefore_asymm (hkey : kind.IsKey) (c d : kind.direct.Value)
    (hcd : kind.ContentBefore c d) (hdc : kind.ContentBefore d c) : c = d := by
  have htrans := hkey.transCmp
  obtain ⟨x, y, rfl, rfl, hlt⟩ := hcd
  obtain ⟨y', x', hy, hx, hlt'⟩ := hdc
  have hxy' := Std.TransCmp.lt_of_lt_of_eq hlt ((hkey.order_eq_iff y y').mpr hy.symm)
  have hxx' := Std.TransCmp.lt_trans hxy' hlt'
  rw [(hkey.order_eq_iff x x').mpr hx.symm] at hxx'
  cases hxx'

/-- Ascending lists with the same elements have them in the same order. -/
theorem IsKey.map_content_eq (hkey : kind.IsKey) {zs ws : List kind.Value}
    (hzs : Ascending kind.order zs) (hws : Ascending kind.order ws)
    (h : (zs.map kind.content).Perm (ws.map kind.content)) :
    zs.map kind.content = ws.map kind.content := by
  have hbefore {xs : List kind.Value} (hxs : Ascending kind.order xs) :
      (xs.map kind.content).Pairwise kind.ContentBefore :=
    List.pairwise_map.mpr (hxs.imp fun hlt => ⟨_, _, rfl, rfl, hlt⟩)
  exact h.eq_of_pairwise (fun c d _ _ => hkey.contentBefore_asymm c d) (hbefore hzs) (hbefore hws)

theorem IsKey.equalEach_iff (hkey : kind.IsKey) (zs ws : List kind.Value) :
    equalEach kind.equal zs ws = true ↔ zs.map kind.content = ws.map kind.content := by
  induction zs generalizing ws with
  | nil => cases ws <;> simp [equalEach]
  | cons z zs ih =>
    cases ws with
    | nil => simp [equalEach]
    | cons w ws => simp [equalEach, hkey.equal_iff, ih]

theorem IsKey.equalUnordered_iff (hkey : kind.IsKey) {zs ws : List kind.Value}
    (hzs : (zs.map kind.content).Nodup) :
    equalUnordered kind.equal zs ws = true ↔ (zs.map kind.content).Perm (ws.map kind.content) := by
  have hfound : (zs.all fun x => ws.any fun y => kind.equal x y) = true ↔
      zs.map kind.content ⊆ ws.map kind.content := by
    simp only [List.all_eq_true, List.any_eq_true, hkey.equal_iff, List.subset_def, List.mem_map]
    constructor
    · rintro h c ⟨x, hx, rfl⟩
      obtain ⟨y, hy, heq⟩ := h x hx
      exact ⟨y, hy, heq.symm⟩
    · intro h x hx
      obtain ⟨y, hy, heq⟩ := h ⟨x, hx, rfl⟩
      exact ⟨y, hy, heq.symm⟩
  rw [equalUnordered, Bool.and_eq_true, beq_iff_eq, hfound]
  constructor
  · rintro ⟨hlength, hsubset⟩
    have hpart := List.subperm_of_subset hzs hsubset
    exact hpart.perm_of_length_le (by rw [List.length_map, List.length_map, hlength])
  · intro h
    exact ⟨by simpa using h.length_eq, h.subset⟩

/-- Sets are equal exactly when the lists they were made of have the same elements. -/
theorem Collects.equal_iff (hkey : kind.IsKey) {arrangement : Arrangement}
    {xs ys zs ws : List kind.Value} (h : kind.Collects arrangement xs zs)
    (h' : kind.Collects arrangement ys ws) :
    agrees (.set arrangement kind) zs (.set arrangement kind) ws = true ↔ kind.SameElements xs ys := by
  have hperm : (zs.map kind.content).Perm (ws.map kind.content) ↔ kind.SameElements xs ys := by
    rw [List.perm_ext_iff_of_nodup h.nodup h'.nodup]
    exact forall_congr' fun c => iff_congr (h.mem_iff c) (h'.mem_iff c)
  rw [← hperm]
  cases arrangement with
  | hashed => exact hkey.equalUnordered_iff h.nodup
  | sorted =>
    refine (hkey.equalEach_iff zs ws).trans ⟨fun heq => by rw [heq], ?_⟩
    exact hkey.map_content_eq (h.ascending rfl) (h'.ascending rfl)

/-! ### Collections made of a list -/

/-- How what was built may be held: in any order where there is none, else as it is. -/
def MayHold {α : Type} : Arrangement → (built held : List α) → Prop
  | .hashed, built, held => held.Perm built
  | .sorted, built, held => held = built

/-- The sets of the elements of a list, and the maps with these as keys and any values, behind any
pointers. -/
inductive Keyed (kind : Kind) (xs : List kind.Value) : Any → Prop where
  | set (arrangement : Arrangement) {zs : List kind.Value}
    (h : MayHold arrangement (setOf arrangement kind xs) zs) : Keyed kind xs ⟨.set arrangement kind, zs⟩
  | map (arrangement : Arrangement) (value : Kind) {entries held : List (kind.Value × value.Value)}
    (hkeys : entries.map Prod.fst = xs)
    (h : MayHold arrangement (mapOf arrangement kind value entries) held) :
    Keyed kind xs ⟨.map arrangement kind value, held⟩
  | pointer (form : PointerForm) {target : Kind} (p : Pointer target.Value)
    (h : Keyed kind xs ⟨target, p.target⟩) : Keyed kind xs ⟨.pointer form target, p⟩

/-- All collections of the elements of a list, behind any pointers. -/
inductive Collection (kind : Kind) (xs : List kind.Value) : Any → Prop where
  | sequence (form : SequenceForm) : Collection kind xs ⟨.sequence form kind, xs⟩
  | keyed {collection : Any} (h : Keyed kind xs collection) : Collection kind xs collection
  | pointer (form : PointerForm) {target : Kind} (p : Pointer target.Value)
    (h : Collection kind xs ⟨target, p.target⟩) : Collection kind xs ⟨.pointer form target, p⟩

variable {xs : List kind.Value} {collection : Any}

theorem IsKey.collects_of_mayHold (hkey : kind.IsKey) {arrangement : Arrangement}
    {zs : List kind.Value} (h : MayHold arrangement (setOf arrangement kind xs) zs) :
    kind.Collects arrangement xs zs := by
  have hset := hkey.collects_setOf arrangement xs
  cases arrangement with
  | hashed =>
    have hperm := h.map kind.content
    exact ⟨fun c => hperm.mem_iff.trans (hset.mem_iff c), hperm.nodup_iff.mpr hset.nodup,
      fun hsorted => nomatch hsorted⟩
  | sorted =>
    rw [show zs = setOf .sorted kind xs from h]
    exact hset

/-- The keys of a map are held as a set of them may be. -/
theorem MayHold.map_fst {arrangement : Arrangement} {value : Kind}
    {entries held : List (kind.Value × value.Value)}
    (h : MayHold arrangement (mapOf arrangement kind value entries) held) :
    MayHold arrangement (setOf arrangement kind (entries.map Prod.fst)) (held.map Prod.fst) := by
  rw [← map_fst_mapOf]
  cases arrangement with
  | hashed => exact List.Perm.map _ h
  | sorted => exact congrArg _ h

theorem Keyed.contains?_eq (hkey : kind.IsKey) (h : kind.Keyed xs collection) (x : kind.Value) :
    ∃ found, collection.1.contains? collection.2 kind x = some found ∧
      (found = true ↔ kind.content x ∈ xs.map kind.content) := by
  induction h with
  | set arrangement h =>
    exact ⟨_, dif_pos rfl, (hkey.collects_of_mayHold h).hasElement_iff hkey x⟩
  | map arrangement value hkeys h =>
    subst hkeys
    exact ⟨_, dif_pos rfl, (hkey.collects_of_mayHold h.map_fst).hasElement_iff hkey x⟩
  | pointer form p h ih => exact ih

theorem Collection.contains?_eq (hkey : kind.IsKey) (h : kind.Collection xs collection)
    (x : kind.Value) :
    ∃ found, collection.1.contains? collection.2 kind x = some found ∧
      (found = true ↔ kind.content x ∈ xs.map kind.content) := by
  induction h with
  | sequence form =>
    refine ⟨_, rfl, ?_⟩
    rw [List.any_eq_true, List.mem_map]
    exact exists_congr fun y => and_congr_right fun _ => hkey.equal_iff y x
  | keyed h => exact h.contains?_eq hkey x
  | pointer form p h ih => exact ih

theorem Keyed.length?_eq (hkey : kind.IsKey) (h : kind.Keyed xs collection) :
    collection.1.length? collection.2 = some (kind.distinctCount xs) := by
  induction h with
  | set arrangement h => exact congrArg some (hkey.collects_of_mayHold h).length_eq
  | map arrangement value hkeys h =>
    subst hkeys
    have hlength := (hkey.collects_of_mayHold h.map_fst).length_eq
    rw [List.length_map] at hlength
    exact congrArg some hlength
  | pointer form p h ih => exact ih

end Kind

namespace Expectation

variable {kind : Kind} {renderer : Renderer} {site site' : Site} {negated : Bool}
  {label label' : Option String} {collection collection' : Kind.Any}

/-- An expectation on a collection. -/
def onCollection (negated : Bool) (label : Option String) (collection : Kind.Any) :
    Expectation collection.1 :=
  ⟨collection.2, negated, label⟩

theorem sameVerdict_contain {x : kind.Value} {found found' : Bool}
    (h : collection.1.contains? collection.2 kind x = some found)
    (h' : collection'.1.contains? collection'.2 kind x = some found') (hiff : found = true ↔ found' = true) :
    SameVerdict renderer site site' (onCollection negated label collection) (.contain kind x)
      (onCollection negated label' collection') (.contain kind x) := by
  have hsame : found = found' := Bool.eq_iff_iff.mpr hiff
  subst hsame
  exact sameVerdict_of_outcome (outcome_contain h) (outcome_contain h') Iff.rfl

section length

variable {m n : Nat} (h : collection.1.length? collection.2 = some m)
  (h' : collection'.1.length? collection'.2 = some n)
include h h'

theorem sameVerdict_length_iff :
    (∀ length, SameVerdict renderer site site' (onCollection negated label collection) (.length length)
      (onCollection negated label' collection') (.length length)) ↔ m = n := by
  have houtcome (length : Nat) : (Check.length length).outcome
      (onCollection negated label collection).value = .ok (m == length) := by
    rw [Check.outcome, onCollection, h]
  have houtcome' (length : Nat) : (Check.length length).outcome
      (onCollection negated label' collection').value = .ok (n == length) := by
    rw [Check.outcome, onCollection, h']
  constructor
  · intro hsame
    have hpasses := (hsame m).passes
    rw [passes_iff_condition (houtcome m) beq_iff_eq, passes_iff_condition (houtcome' m) beq_iff_eq,
      onCollection, onCollection] at hpasses
    cases negated <;> simp at hpasses <;> exact hpasses.symm
  · rintro rfl length
    exact sameVerdict_of_outcome (houtcome length) (houtcome' length) Iff.rfl

theorem sameVerdict_truthy (heq : m = n) :
    SameVerdict renderer site site' (onCollection negated label collection) .truthy
      (onCollection negated label' collection') .truthy := by
  refine sameVerdict_of_outcome rfl rfl ?_
  rw [onCollection, onCollection, Kind.isTrue_of_length? h, Kind.isTrue_of_length? h', heq]

end length

section answers

variable {kind : Kind} (xs ys : List kind.Value) (renderer : Renderer) (site site' : Site)
  (negated : Bool) (label label' : Option String)

/-- What the collections of a list answer when they are asked for an element or for their length. -/
structure CollectionsAnswerAlike : Prop where
  contain_passes_iff : ∀ c, kind.Collection xs c → ∀ x : kind.Value,
    ((onCollection negated label c).Passes renderer site (.contain kind x) ↔
      (kind.content x ∈ xs.map kind.content ↔ negated = false))
  contain_fails_iff : ∀ c, kind.Collection xs c → ∀ x : kind.Value,
    ((onCollection negated label c).Fails renderer site (.contain kind x) ↔
      (kind.content x ∈ xs.map kind.content ↔ negated = true))
  contain_alike : ∀ c d, kind.Collection xs c → kind.Collection xs d → ∀ x : kind.Value,
    SameVerdict renderer site site' (onCollection negated label c) (.contain kind x)
      (onCollection negated label' d) (.contain kind x)
  sequence_length : ∀ form, (Kind.sequence form kind).length? xs = some xs.length
  keyed_length : ∀ c, kind.Keyed xs c → c.1.length? c.2 = some (kind.distinctCount xs)
  /-- A set or a map agrees with a sequence on the length exactly when the list repeats nothing. -/
  length_alike_iff : ∀ c, kind.Keyed xs c → ∀ form,
    (∀ n, SameVerdict renderer site site' (onCollection negated label c) (.length n)
      (onCollection negated label' ⟨.sequence form kind, xs⟩) (.length n)) ↔
      (xs.map kind.content).Nodup

/-- What the sets and maps of two lists answer alike. -/
structure KeyedAnswerAlike : Prop where
  contain : ∀ c d, kind.Keyed xs c → kind.Keyed ys d → ∀ x : kind.Value,
    SameVerdict renderer site site' (onCollection negated label c) (.contain kind x)
      (onCollection negated label' d) (.contain kind x)
  length : ∀ c d, kind.Keyed xs c → kind.Keyed ys d → ∀ n,
    SameVerdict renderer site site' (onCollection negated label c) (.length n)
      (onCollection negated label' d) (.length n)
  truthy : ∀ c d, kind.Keyed xs c → kind.Keyed ys d →
    SameVerdict renderer site site' (onCollection negated label c) .truthy
      (onCollection negated label' d) .truthy

/-- How sets of two lists compare, however they are held. -/
structure SetsCompare (arrangement : Arrangement) : Prop where
  passes_iff : ∀ zs ws : List kind.Value,
    Kind.MayHold arrangement (Kind.setOf arrangement kind xs) zs →
    Kind.MayHold arrangement (Kind.setOf arrangement kind ys) ws →
    ((onCollection negated label ⟨.set arrangement kind, zs⟩).Passes renderer site
      (.equal (.set arrangement kind) ws) ↔ (kind.SameElements xs ys ↔ negated = false))
  fails_iff : ∀ zs ws : List kind.Value,
    Kind.MayHold arrangement (Kind.setOf arrangement kind xs) zs →
    Kind.MayHold arrangement (Kind.setOf arrangement kind ys) ws →
    ((onCollection negated label ⟨.set arrangement kind, zs⟩).Fails renderer site
      (.equal (.set arrangement kind) ws) ↔ (kind.SameElements xs ys ↔ negated = true))
  /-- A set of the one list may stand for a set of the other one in any comparison. -/
  subject_alike : kind.SameElements xs ys → ∀ vs zs ws us : List kind.Value,
    Kind.MayHold arrangement (Kind.setOf arrangement kind xs) zs →
    Kind.MayHold arrangement (Kind.setOf arrangement kind ys) ws →
    Kind.MayHold arrangement (Kind.setOf arrangement kind vs) us →
    SameVerdict renderer site site'
      (onCollection negated label ⟨.set arrangement kind, zs⟩) (.equal (.set arrangement kind) us)
      (onCollection negated label' ⟨.set arrangement kind, ws⟩) (.equal (.set arrangement kind) us)
  operand_alike : kind.SameElements xs ys → ∀ vs zs ws us : List kind.Value,
    Kind.MayHold arrangement (Kind.setOf arrangement kind xs) zs →
    Kind.MayHold arrangement (Kind.setOf arrangement kind ys) ws →
    Kind.MayHold arrangement (Kind.setOf arrangement kind vs) us →
    SameVerdict renderer site site'
      (onCollection negated label ⟨.set arrangement kind, us⟩) (.equal (.set arrangement kind) zs)
      (onCollection negated label' ⟨.set arrangement kind, us⟩) (.equal (.set arrangement kind) ws)

variable {xs ys} (hkey : kind.IsKey)
include hkey

theorem collectionsAnswerAlike :
    CollectionsAnswerAlike xs renderer site site' negated label label' where
  contain_passes_iff := by
    intro c hc x
    obtain ⟨found, hfound, hiff⟩ := hc.contains?_eq hkey x
    exact passes_iff_condition (outcome_contain hfound) hiff
  contain_fails_iff := by
    intro c hc x
    obtain ⟨found, hfound, hiff⟩ := hc.contains?_eq hkey x
    exact fails_iff_condition (outcome_contain hfound) hiff
  contain_alike := by
    intro c d hc hd x
    obtain ⟨found, hfound, hiff⟩ := hc.contains?_eq hkey x
    obtain ⟨found', hfound', hiff'⟩ := hd.contains?_eq hkey x
    exact sameVerdict_contain hfound hfound' (hiff.trans hiff'.symm)
  sequence_length := fun _ => rfl
  keyed_length := fun _ hc => hc.length?_eq hkey
  length_alike_iff := by
    intro c hc form
    rw [← Kind.distinctCount_eq_length_iff]
    exact sameVerdict_length_iff (hc.length?_eq hkey) rfl

theorem keyedAnswerAlike (hsame : kind.SameElements xs ys) :
    KeyedAnswerAlike xs ys renderer site site' negated label label' where
  contain := by
    intro c d hc hd x
    obtain ⟨found, hfound, hiff⟩ := hc.contains?_eq hkey x
    obtain ⟨found', hfound', hiff'⟩ := hd.contains?_eq hkey x
    exact sameVerdict_contain hfound hfound'
      (hiff.trans ((hsame (kind.content x)).trans hiff'.symm))
  length := fun _ _ hc hd =>
    (sameVerdict_length_iff (hc.length?_eq hkey) (hd.length?_eq hkey)).mpr
      (Kind.distinctCount_congr hsame)
  truthy := fun _ _ hc hd =>
    sameVerdict_truthy (hc.length?_eq hkey) (hd.length?_eq hkey) (Kind.distinctCount_congr hsame)

theorem setsCompare (arrangement : Arrangement) :
    SetsCompare xs ys renderer site site' negated label label' arrangement where
  passes_iff := fun _ _ hzs hws => passes_iff_condition rfl
    ((hkey.collects_of_mayHold hzs).equal_iff hkey (hkey.collects_of_mayHold hws))
  fails_iff := fun _ _ hzs hws => fails_iff_condition rfl
    ((hkey.collects_of_mayHold hzs).equal_iff hkey (hkey.collects_of_mayHold hws))
  subject_alike := by
    intro hsame vs zs ws us hzs hws hus
    have heq : Kind.agrees (.set arrangement kind) zs (.set arrangement kind) us =
        Kind.agrees (.set arrangement kind) ws (.set arrangement kind) us := by
      rw [Bool.eq_iff_iff,
        (hkey.collects_of_mayHold hzs).equal_iff hkey (hkey.collects_of_mayHold hus),
        (hkey.collects_of_mayHold hws).equal_iff hkey (hkey.collects_of_mayHold hus)]
      exact forall_congr' fun c => iff_congr (hsame c) Iff.rfl
    exact sameVerdict_of_outcome rfl rfl (iff_of_eq (congrArg (· = negated) heq))
  operand_alike := by
    intro hsame vs zs ws us hzs hws hus
    have heq : Kind.agrees (.set arrangement kind) us (.set arrangement kind) zs =
        Kind.agrees (.set arrangement kind) us (.set arrangement kind) ws := by
      rw [Bool.eq_iff_iff,
        (hkey.collects_of_mayHold hus).equal_iff hkey (hkey.collects_of_mayHold hzs),
        (hkey.collects_of_mayHold hus).equal_iff hkey (hkey.collects_of_mayHold hws)]
      exact forall_congr' fun c => iff_congr Iff.rfl (hsame c)
    exact sameVerdict_of_outcome rfl rfl (iff_of_eq (congrArg (· = negated) heq))

end answers

end Expectation

/-- Collections of one list of elements, however they hold them, answer alike when they are asked for an
element, and pass where the list has it. Sequences are as long as the list, sets and maps as long as it
has different elements, so the lengths agree exactly when the list repeats none. Of a list, sets and maps
know nothing but its elements: two lists with the same ones, in whichever order and however often, make
sets and maps that contain the same, are equally long and equally true. Sets are equal when their lists
have the same elements, so in a comparison each may stand for the other. -/
theorem collections_answer_alike {kind : Kind} (hkey : kind.IsKey) (xs : List kind.Value)
    (renderer : Renderer) (site site' : Site) (negated : Bool) (label label' : Option String) :
    Expectation.CollectionsAnswerAlike xs renderer site site' negated label label' ∧
    (∀ ys, kind.SameElements xs ys →
      Expectation.KeyedAnswerAlike xs ys renderer site site' negated label label') ∧
    ∀ ys arrangement,
      Expectation.SetsCompare xs ys renderer site site' negated label label' arrangement :=
  ⟨Expectation.collectionsAnswerAlike renderer site site' negated label label' hkey,
    fun _ => Expectation.keyedAnswerAlike renderer site site' negated label label' hkey,
    fun _ => Expectation.setsCompare renderer site site' negated label label' hkey⟩

/-- A list that repeats a borrowed text, the set of it in another order, and a shared sorted map with its
elements as keys: all have the text, and the set is shorter than the list. -/
theorem collections_answer_alike_repeated :
    let kind : Kind := .option (.pointer .borrowed .text)
    let xs : List kind.Value := [some ⟨.object 0, "é"⟩, none, some ⟨.object 1, "é"⟩]
    let ys : List kind.Value := [none, some ⟨.object 2, "é"⟩]
    let x : kind.Value := some ⟨.object 3, "é"⟩
    let set : Kind.Any := ⟨.set .hashed kind, [none, some ⟨.object 0, "é"⟩]⟩
    let map : Kind.Any := ⟨.pointer .shared (.map .sorted kind .int),
      ⟨.object 4, [(none, (2 : Int)), (some ⟨.object 0, "é"⟩, (3 : Int))]⟩⟩
    let list : Kind.Any := ⟨.sequence .deque kind, xs⟩
    let expectation := Expectation.onCollection false none
    let site : Site := ⟨"tests/cart.rs", 6⟩
    kind.IsKey ∧ kind.Keyed xs set ∧ kind.Keyed xs map ∧ kind.SameElements xs ys ∧
    kind.distinctCount xs = 2 ∧
    (expectation list).Passes .initial site (.contain kind x) ∧
    (expectation set).Passes .initial site (.contain kind x) ∧
    (expectation map).Passes .initial site (.contain kind x) ∧
    ¬ (∀ n, (expectation set).SameVerdict .initial site site (.length n) (expectation list) (.length n)) ∧
    (expectation set).Passes .initial site (.equal (.set .hashed kind) (Kind.setOf .hashed kind ys)) := by
  intro kind xs ys x set map list expectation site
  have hkey : kind.IsKey := trivial
  have hhold : Kind.MayHold .hashed (Kind.setOf .hashed kind xs) set.2 := List.Perm.swap _ _ _
  have hset : kind.Keyed xs set := .set .hashed hhold
  have hmap : kind.Keyed xs map := by
    let entries : List (kind.Value × Int) :=
      [(some ⟨.object 0, "é"⟩, 1), (none, 2), (some ⟨.object 1, "é"⟩, 3)]
    have hkeys : entries.map Prod.fst = xs := rfl
    exact .pointer .shared _ (.map .sorted .int hkeys rfl)
  have hsame : kind.SameElements xs ys := by
    intro c
    simp [kind, xs, ys, Kind.content]
    tauto
  have hcount : kind.distinctCount xs = 2 := (Option.some.inj (hset.length?_eq hkey)).symm
  have hrepeats : ¬ (xs.map kind.content).Nodup := by
    rw [← Kind.distinctCount_eq_length_iff, hcount]
    decide
  have hmember : kind.content x ∈ xs.map kind.content := List.mem_cons_self
  obtain ⟨halike, -, hcompare⟩ :=
    collections_answer_alike hkey xs .initial site site false none none
  have hpass {c : Kind.Any} (hc : kind.Collection xs c) :
      (expectation c).Passes .initial site (.contain kind x) :=
    (halike.contain_passes_iff c hc x).mpr (iff_of_true hmember rfl)
  refine ⟨hkey, hset, hmap, hsame, hcount, hpass (.sequence .deque), hpass (.keyed hset),
    hpass (.keyed hmap), ?_, ?_⟩
  · exact fun hall => hrepeats ((halike.length_alike_iff set hset .deque).mp hall)
  · have hother : Kind.MayHold .hashed (Kind.setOf .hashed kind ys) (Kind.setOf .hashed kind ys) :=
      List.Perm.refl _
    exact ((hcompare ys .hashed).passes_iff _ _ hhold hother).mpr (iff_of_true hsame rfl)

end Attest
