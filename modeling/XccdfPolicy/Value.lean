import XccdfPolicy.Select

/-!
# Value bindings, tailoring and substitution

Two separately written resolutions of a Value under a profile:

* `xccdfPolicyCheckGetValueBindings` builds the bindings handed to a checking engine, taking
  the LAST setvalue and the LAST refine-value of the profile for each Value
  (`xccdf_policy_get_setvalue`, `xccdf_policy_get_refine_value`);
* `xccdfPolicyTailorItem` clones an item adjusted by the profile, taking the FIRST
  refine-rule, setvalue and refine-value; `xccdfSubstCallback` substitutes a `sub` marker with
  the tailored Value's first instance.

The source mutates the item handed to `xccdf_policy_tailor_item` (it writes the refined
operator into the original Value), so the model returns the item as the call leaves it next to
the item it returns. A read through a `NULL` pointer is `Except.error` with the source
expression that reads it.

* `checkGetValueBindings_spec`: for exports that name Values, the bindings are `NULL` exactly
  when an export names no item or its selector no instance, and otherwise follow the exports
  with the LAST setvalue and refine-value of the profile. The source casts whatever item an
  export names to a Value; `XccdfBenchmark.getValue` reads a Rule or Group there as no Value.
* `tailorItem_value_refined_oper`: tailoring a Value under a refine-value with an operator
  changes the original Value's operator.
-/

namespace Xccdf

/-! ## Profile lookups -/

/-- The last element of `items` whose key is `id`: the loops of `xccdf_policy_get_setvalue`
and `xccdf_policy_get_refine_value`, which keep overwriting `final`. -/
def lastMatch {α : Type} (key : α → String) (items : List α) (id : String) : Option α :=
  items.foldl (fun final item => if key item = id then some item else final) none

/-- The first element of `items` whose key is `id`: the loops that `break` on a match, as in
`xccdf_policy_get_refine_rules_by_rule` and `xccdf_policy_get_value_of_item`. -/
def firstMatch {α : Type} (key : α → String) (items : List α) (id : String) : Option α :=
  items.find? fun item => key item = id

/-- `xccdf_policy_get_setvalue(policy, id)`: the last setvalue of the profile for `id`. -/
def xccdfPolicyGetSetvalue (profile : XccdfProfile) (id : String) : Option XccdfSetvalue :=
  lastMatch (·.item) profile.setvalues id

/-- `xccdf_policy_get_refine_value(policy, id)`: the last refine-value of the profile for
`id`. -/
def xccdfPolicyGetRefineValue (profile : XccdfProfile) (id : String) :
    Option XccdfRefineValue :=
  lastMatch (·.item) profile.refineValues id

/-- `xccdf_policy_get_refine_rules_by_rule(policy, item)`: the first refine-rule of the
profile for the item. -/
def xccdfPolicyGetRefineRulesByRule (profile : XccdfProfile) (id : String) :
    Option XccdfRefineRule :=
  firstMatch (·.item) profile.refineRules id

/-- A loop that keeps overwriting its answer with each element satisfying `p` ends with the
last such element, or its initial answer when there is none. -/
theorem foldl_ite_some_eq_getLast? {α : Type} (p : α → Bool) (l : List α) (init : Option α) :
    l.foldl (fun last x => if p x then some x else last) init =
      ((l.filter p).getLast?).or init := by
  induction l using List.reverseRecOn with
  | nil => rfl
  | append_singleton l x ih =>
    rw [List.foldl_append, ih]
    by_cases hx : p x <;> simp [hx, List.filter_append]

/-- `lastMatch` is the last element whose key is `id`. -/
theorem lastMatch_eq_getLast? {α : Type} (key : α → String) (items : List α) (id : String) :
    lastMatch key items id = (items.filter (key · = id)).getLast? := by
  simpa using foldl_ite_some_eq_getLast? (key · = id) items none

/-- The Value with the given id. The source casts whatever `xccdf_benchmark_get_item` finds to
a Value; an id of a Rule or Group is read here as a missing Value. -/
def XccdfBenchmark.getValue (benchmark : XccdfBenchmark) (id : String) : Option XccdfValue :=
  match benchmark.getItem id with
  | some (.value v, _) => some v
  | _ => none

/-! ## Value bindings -/

/-- `xccdf_value_binding`: the engine variable's name, the Value's type, the resolved value,
the profile's setvalue literal if any, and the operator. -/
structure XccdfValueBinding where
  name : String
  type : Int
  value : String
  setvalue : Option String
  operator : Int
deriving DecidableEq, Repr

/-- The binding of one export to the Value `value`: the setvalue literal, the refine-value's
selector and operator (the Value's own operator without a refine-value), and the instance of
that selector; `none` when no instance has it. -/
def xccdfValueBindingOf (profile : XccdfProfile) (checkExport : XccdfCheckExport)
    (value : XccdfValue) : Option XccdfValueBinding :=
  let refineValue := xccdfPolicyGetRefineValue profile value.id
  let selector := refineValue.bind (·.selector)
  (value.getInstanceBySelector selector).map fun inst =>
    { name := checkExport.name, type := value.type, value := inst.value,
      setvalue := (xccdfPolicyGetSetvalue profile value.id).map (·.value),
      operator := match refineValue with
        | some r => r.oper
        | none => value.oper }

/-- `xccdf_policy_check_get_value_bindings(policy, exports)`: one binding per export, in order,
or `NULL` as soon as an export names no Value or its selector no instance. -/
def xccdfPolicyCheckGetValueBindings (benchmark : XccdfBenchmark) (profile : XccdfProfile) :
    List XccdfCheckExport → Option (List XccdfValueBinding)
  | [] => some []
  | checkExport :: exports => do
    let value ← benchmark.getValue checkExport.value
    let binding ← xccdfValueBindingOf profile checkExport value
    let bindings ← xccdfPolicyCheckGetValueBindings benchmark profile exports
    pure (binding :: bindings)

theorem XccdfBenchmark.getValue_eq_some_iff (benchmark : XccdfBenchmark) {id : String}
    {value : XccdfValue} :
    benchmark.getValue id = some value ↔
      ∃ path, benchmark.getItem id = some (.value value, path) := by
  unfold XccdfBenchmark.getValue
  split <;> simp_all

/-- For an id that names a Value or no item, a property of the Value found by `getValue` is the
same property of the item the Benchmark holds under that id. -/
theorem XccdfBenchmark.forall_getValue_iff (benchmark : XccdfBenchmark) {id : String}
    (hvalue : ∀ item path, benchmark.getItem id = some (item, path) → ∃ v, item = .value v)
    (P : XccdfValue → Prop) :
    (∀ v, benchmark.getValue id = some v → P v) ↔
      benchmark.getItem id = none ∨
        ∃ v path, benchmark.getItem id = some (.value v, path) ∧ P v := by
  rcases h : benchmark.getItem id with _ | ⟨item, path⟩
  · simp [XccdfBenchmark.getValue, h]
  · obtain ⟨v, rfl⟩ := hvalue item path h
    simp [XccdfBenchmark.getValue, h]

theorem XccdfBenchmark.getValue_id (benchmark : XccdfBenchmark) {id : String} {value : XccdfValue}
    (h : benchmark.getValue id = some value) : value.id = id := by
  unfold XccdfBenchmark.getValue at h
  split at h
  · rename_i v path hitem
    obtain rfl := Option.some.inj h
    exact benchmark.getItem_id hitem
  · cases h

/-- The bindings of a check's exports, read through `XccdfBenchmark.getValue`: `NULL` exactly
when some export names no Value or the selector of the profile's LAST refine-value for its
Value (none without one) matches no instance; otherwise one binding per export, in order. -/
theorem checkGetValueBindings_getValue (benchmark : XccdfBenchmark) (profile : XccdfProfile)
    (exports : List XccdfCheckExport) :
    let selectorOf := fun id : String =>
      ((profile.refineValues.filter (·.item = id)).getLast?).bind (·.selector)
    (xccdfPolicyCheckGetValueBindings benchmark profile exports = none ↔
      ∃ e ∈ exports, ∀ v, benchmark.getValue e.value = some v →
        v.getInstanceBySelector (selectorOf e.value) = none) ∧
    ∀ bindings, xccdfPolicyCheckGetValueBindings benchmark profile exports = some bindings →
      List.Forall₂ (fun binding e => ∃ v inst, benchmark.getValue e.value = some v ∧
          v.getInstanceBySelector (selectorOf e.value) = some inst ∧
          binding.name = e.name ∧ binding.type = v.type ∧ binding.value = inst.value ∧
          binding.setvalue = ((profile.setvalues.filter (·.item = e.value)).getLast?).map (·.value))
        bindings exports := by
  intro selectorOf
  induction exports with
  | nil => simp [xccdfPolicyCheckGetValueBindings]
  | cons e es ih =>
    obtain ⟨ih₁, ih₂⟩ := ih
    rcases hv : benchmark.getValue e.value with _ | v
    · simp [xccdfPolicyCheckGetValueBindings, hv]
    · have hid := benchmark.getValue_id hv
      have hbinding : xccdfValueBindingOf profile e v =
          (v.getInstanceBySelector (selectorOf e.value)).map fun inst =>
            { name := e.name, type := v.type, value := inst.value,
              setvalue := ((profile.setvalues.filter (·.item = e.value)).getLast?).map (·.value),
              operator := match xccdfPolicyGetRefineValue profile v.id with
                | some r => r.oper
                | none => v.oper } := by
        simp only [xccdfValueBindingOf, xccdfPolicyGetRefineValue, xccdfPolicyGetSetvalue,
          lastMatch_eq_getLast?, hid, selectorOf]
      rcases hi : v.getInstanceBySelector (selectorOf e.value) with _ | inst
      · simp [xccdfPolicyCheckGetValueBindings, hv, hbinding, hi]
      · rw [hi, Option.map_some'] at hbinding
        rcases hrest : xccdfPolicyCheckGetValueBindings benchmark profile es with _ | bs
        · have hnone : xccdfPolicyCheckGetValueBindings benchmark profile (e :: es) = none := by
            simp [xccdfPolicyCheckGetValueBindings, hv, hbinding, hrest]
          obtain ⟨e', he', h'⟩ := ih₁.mp hrest
          exact ⟨iff_of_true hnone ⟨e', List.mem_cons_of_mem _ he', h'⟩,
            fun _ h => by rw [hnone] at h; cases h⟩
        · obtain ⟨b, hb⟩ : ∃ b, xccdfValueBindingOf profile e v = some b := ⟨_, hbinding⟩
          have hsome : xccdfPolicyCheckGetValueBindings benchmark profile (e :: es) =
              some (b :: bs) := by
            simp [xccdfPolicyCheckGetValueBindings, hv, hb, hrest]
          rw [hsome]
          refine ⟨iff_of_false (by simp) ?_, fun bindings h => ?_⟩
          · rintro ⟨e', he', h'⟩
            rcases List.mem_cons.mp he' with rfl | he'
            · simp [h' v hv] at hi
            · simp [ih₁.mpr ⟨e', he', h'⟩] at hrest
          · obtain rfl := Option.some.inj h
            obtain rfl := Option.some.inj (hbinding.symm.trans hb)
            exact .cons ⟨v, inst, hv, hi, rfl, rfl, rfl, rfl⟩ (ih₂ bs hrest)

/-- The bindings of a check's exports, each export naming a Value of the Benchmark or no item:
`NULL` exactly when some export names no item, or the selector of the profile's LAST
refine-value for its Value (none without one) matches no instance of the Value; otherwise one
binding per export, in order, with the export's name, the Value's type, that instance's value
and the literal of the profile's LAST setvalue for the Value. -/
theorem checkGetValueBindings_spec (benchmark : XccdfBenchmark) (profile : XccdfProfile)
    (exports : List XccdfCheckExport)
    (hvalues : ∀ e ∈ exports, ∀ item path,
      benchmark.getItem e.value = some (item, path) → ∃ v, item = .value v) :
    let selectorOf := fun id : String =>
      ((profile.refineValues.filter (·.item = id)).getLast?).bind (·.selector)
    (xccdfPolicyCheckGetValueBindings benchmark profile exports = none ↔
      ∃ e ∈ exports, benchmark.getItem e.value = none ∨
        ∃ v path, benchmark.getItem e.value = some (.value v, path) ∧
          v.getInstanceBySelector (selectorOf e.value) = none) ∧
    ∀ bindings, xccdfPolicyCheckGetValueBindings benchmark profile exports = some bindings →
      List.Forall₂ (fun binding e => ∃ v path inst,
          benchmark.getItem e.value = some (.value v, path) ∧
          v.getInstanceBySelector (selectorOf e.value) = some inst ∧
          binding.name = e.name ∧ binding.type = v.type ∧ binding.value = inst.value ∧
          binding.setvalue = ((profile.setvalues.filter (·.item = e.value)).getLast?).map (·.value))
        bindings exports := by
  intro selectorOf
  obtain ⟨hnone, hsome⟩ := checkGetValueBindings_getValue benchmark profile exports
  refine ⟨hnone.trans (exists_congr fun e => and_congr_right fun he =>
      benchmark.forall_getValue_iff (hvalues e he) _), fun bindings h => ?_⟩
  refine (hsome bindings h).imp fun binding e ⟨v, inst, hv, hrest⟩ => ?_
  obtain ⟨path, hitem⟩ := benchmark.getValue_eq_some_iff.mp hv
  exact ⟨v, path, inst, hitem, hrest⟩

/-! ## Tailoring -/

/-- `xccdf_policy_get_value_of_item(policy, item)`: the first setvalue's literal, else the
value of the instance the first refine-value selects (read through `NULL` when there is no
such instance), else `NULL`. -/
def xccdfPolicyGetValueOfItem (profile : XccdfProfile) (value : XccdfValue) :
    Except String (Option String) :=
  match firstMatch (·.item) profile.setvalues value.id with
  | some setvalue => .ok (some setvalue.value)
  | none =>
    match firstMatch (·.item) profile.refineValues value.id with
    | some refineValue =>
      match value.getInstanceBySelector refineValue.selector with
      | some inst => .ok (some inst.value)
      | none => .error "xccdf_value_instance_get_value(NULL)"
    | none => .ok none

/-- `xccdf_policy_get_refine_value_oper(policy, item)`: the first refine-value's operator, or
`-1`. -/
def xccdfPolicyGetRefineValueOper (profile : XccdfProfile) (value : XccdfValue) : Int :=
  match firstMatch (·.item) profile.refineValues value.id with
  | some refineValue => refineValue.oper
  | none => -1

/-- The selector of the last instance whose value is `literal` (the first loop of the Value
branch of `xccdf_policy_tailor_item`). -/
def selectorOfValue (instances : List XccdfValueInstance) (literal : String) : Option String :=
  instances.foldl (fun selector inst => if inst.value = literal then inst.selector else selector)
    none

/-- The Value branch of `xccdf_policy_tailor_item` on the clone: keep the instances of the
selector whose value is `literal`; with no such selector, the selector-less instance gets
`literal` as its default value (through `NULL` when there is none). -/
def tailorValueInstances (value : XccdfValue) (literal : String) : Except String XccdfValue :=
  let selector := selectorOfValue value.instances literal
  let kept := value.instances.filter (·.selector = selector)
  match selector with
  | some _ => .ok { value with instances := kept }
  | none =>
    match kept.findIdx? (·.selector = none) with
    | some i =>
      .ok { value with
        instances := kept.modify (fun inst => { inst with defval := some literal }) i }
    | none => .error "xccdf_value_instance_set_defval_string(NULL, value)"

/-- `xccdf_policy_tailor_item(policy, item)`: the item as the call leaves it, and the item it
returns. A Rule or Group without a refine-rule (a Group also without a refined weight) comes
back as it is; otherwise a clone gets the refined role, severity and defined weight (the
source tests role and severity with `isnan` on integer codes, which never holds). A Value the
profile neither sets nor refines gives `NULL`; otherwise a clone keeps the selected instances,
and the first refine-value's operator is written into the ORIGINAL Value. -/
def xccdfPolicyTailorItem (profile : XccdfProfile) :
    XccdfItem → Except String (XccdfItem × Option XccdfItem)
  | .rule r =>
    match xccdfPolicyGetRefineRulesByRule profile r.id with
    | none => .ok (.rule r, some (.rule r))
    | some refineRule =>
      let tailored : XccdfRule :=
        { r with
          role := refineRule.role
          severity := refineRule.severity
          weight := refineRule.weight.getD r.weight }
      .ok (.rule r, some (.rule tailored))
  | .group g content =>
    match (xccdfPolicyGetRefineRulesByRule profile g.id).bind (·.weight) with
    | some w => .ok (.group g content, some (.group { g with weight := w } content))
    | none => .ok (.group g content, some (.group g content))
  | .value v => do
    match ← xccdfPolicyGetValueOfItem profile v with
    | none => pure (.value v, none)
    | some literal =>
      let clone ← tailorValueInstances v literal
      let oper := xccdfPolicyGetRefineValueOper profile v
      let original := if oper = -1 then v else { v with oper := oper }
      pure (.value original, some (.value clone))

/-! ## Substitution -/

/-- `xccdf_subst_type_t`. -/
inductive XccdfSubstType where
  | none | sub | link | «instance»
deriving DecidableEq, Repr

/-- `xccdf_benchmark_get_plain_text`: the plain-text of the given id. -/
def XccdfBenchmark.getPlainText (benchmark : XccdfBenchmark) (id : String) : Option String :=
  (firstMatch (·.1) benchmark.plainTexts id).map (·.2)

/-- `xccdf_subst_callback(type, id, policy)`: for a `sub` marker, the plain-text of `id`, else
the first instance value of the tailored Value `id` (`""` without instances), else `NULL`.
The source reads the instances of whatever `xccdf_policy_tailor_item` returns, `NULL`
included. -/
def xccdfSubstCallback (benchmark : XccdfBenchmark) (profile : XccdfProfile)
    (type : XccdfSubstType) (id : String) : Except String (Option String) :=
  match type with
  | .sub =>
    match benchmark.getPlainText id with
    | some text => .ok (some text)
    | none =>
      match benchmark.getItem id with
      | some (.value v, _) => do
        match (← xccdfPolicyTailorItem profile (.value v)).2 with
        | some (.value tailored) =>
          pure (some ((tailored.instances.head?.map (·.value)).getD ""))
        | _ => .error "xccdf_value_get_instances(NULL)"
      | _ => .ok none
  | _ => .ok none

/-- Tailoring a Value the profile refines with an operator writes that operator into the
original Value, whatever the setvalues: the tailored clone is not the only item changed. -/
theorem tailorItem_value_refined_oper (profile : XccdfProfile) (v : XccdfValue)
    (refineValue : XccdfRefineValue)
    (hfirst : firstMatch (·.item) profile.refineValues v.id = some refineValue)
    (hoper : refineValue.oper ≠ -1) (literal : String)
    (hvalue : xccdfPolicyGetValueOfItem profile v = .ok (some literal))
    (clone : XccdfValue) (hclone : tailorValueInstances v literal = .ok clone) :
    xccdfPolicyTailorItem profile (.value v) =
      .ok (.value { v with oper := refineValue.oper }, some (.value clone)) := by
  simp [xccdfPolicyTailorItem, hvalue, hclone, xccdfPolicyGetRefineValueOper, hfirst, hoper,
    bind, Except.bind, pure, Except.pure]

/-- A Value `v` with one instance, of no selector and value `1`, and the operator code `1`. -/
def oneInstanceValue : XccdfValue :=
  { id := "v", type := 1, oper := 1, platforms := [],
    instances := [{ selector := none, value := "1", defval := none }] }

/-- A profile that sets `v` to `1` and refines it with the operator code `2`. -/
def refiningProfile : XccdfProfile :=
  { emptyProfile with
    setvalues := [{ item := "v", value := "1" }],
    refineValues := [{ item := "v", selector := none, oper := 2 }] }

theorem tailorItem_oneInstanceValue_oper :
    xccdfPolicyTailorItem refiningProfile (.value oneInstanceValue) =
      .ok (.value { oneInstanceValue with oper := 2 },
        some (.value { oneInstanceValue with
          instances := [{ selector := none, value := "1", defval := some "1" }] })) :=
  tailorItem_value_refined_oper refiningProfile oneInstanceValue
    { item := "v", selector := none, oper := 2 } (by decide) (by decide) "1" rfl _ rfl

/-- A Benchmark holding the one Value `oneInstanceValue`. -/
def oneValueBenchmark : XccdfBenchmark :=
  { id := "benchmark", platforms := [], content := [.value oneInstanceValue], plainTexts := [],
    schemaVersion := "1.2", cpeList := none, cpeLangModel := none, profiles := [],
    ids_nodup := by decide }

/-- The one export of `var` to `v`, whose only instance has no selector, is bound to `v`'s
value under the empty profile. -/
theorem checkGetValueBindings_oneValueBenchmark :
    (∀ e ∈ [({ value := "v", name := "var" } : XccdfCheckExport)], ∀ item path,
      oneValueBenchmark.getItem e.value = some (item, path) → ∃ v, item = .value v) ∧
    let selectorOf := fun id : String =>
      ((emptyProfile.refineValues.filter (·.item = id)).getLast?).bind (·.selector)
    (xccdfPolicyCheckGetValueBindings oneValueBenchmark emptyProfile
        [{ value := "v", name := "var" }] = none ↔
      ∃ e ∈ [({ value := "v", name := "var" } : XccdfCheckExport)],
        oneValueBenchmark.getItem e.value = none ∨
        ∃ v path, oneValueBenchmark.getItem e.value = some (.value v, path) ∧
          v.getInstanceBySelector (selectorOf e.value) = none) ∧
    ∀ bindings, xccdfPolicyCheckGetValueBindings oneValueBenchmark emptyProfile
        [{ value := "v", name := "var" }] = some bindings →
      List.Forall₂ (fun (binding : XccdfValueBinding) (e : XccdfCheckExport) => ∃ v path inst,
          oneValueBenchmark.getItem e.value = some (.value v, path) ∧
          v.getInstanceBySelector (selectorOf e.value) = some inst ∧
          binding.name = e.name ∧ binding.type = v.type ∧ binding.value = inst.value ∧
          binding.setvalue =
            ((emptyProfile.setvalues.filter (·.item = e.value)).getLast?).map (·.value))
        bindings [{ value := "v", name := "var" }] :=
  have hvalues : ∀ e ∈ [({ value := "v", name := "var" } : XccdfCheckExport)], ∀ item path,
      oneValueBenchmark.getItem e.value = some (item, path) → ∃ v, item = .value v := by
    intro e he item path h
    obtain rfl := List.mem_singleton.mp he
    have hitem : oneValueBenchmark.getItem "v" = some (.value oneInstanceValue, []) := rfl
    obtain ⟨rfl, -⟩ := Prod.mk.inj (Option.some.inj (hitem.symm.trans h))
    exact ⟨_, rfl⟩
  ⟨hvalues, checkGetValueBindings_spec oneValueBenchmark emptyProfile _ hvalues⟩

/-- Under a profile that neither sets nor refines `v`, an engine is bound to `v`'s value `1`,
but substituting `v` reads the instances of the `NULL` that tailoring returns. -/
theorem substCallback_untailored_value :
    xccdfPolicyCheckGetValueBindings oneValueBenchmark emptyProfile
        [{ value := "v", name := "var" }] =
      some [{ name := "var", type := 1, value := "1", setvalue := none, operator := 1 }] ∧
    xccdfSubstCallback oneValueBenchmark emptyProfile .sub "v" =
      .error "xccdf_value_get_instances(NULL)" := by
  constructor <;> rfl

end Xccdf
