import XccdfPolicy.Value

/-!
# Resolving a profile's refine-rules into the Benchmark

`xccdf_policy_resolve` applies the profile's refine-rules to the Benchmark in place, one after
the other: a Rule takes the refine-rule's role and severity, a Group its weight. The same
refine-rules are applied a second time, to a clone, by `xccdf_policy_tailor_item`
(`xccdfPolicyTailorItem` in `Value.lean`), which reads only the FIRST refine-rule of the item
and also refines a Rule's weight.

The writes of `xccdf_policy_resolve` are edits of Rules and Groups that keep every id
(`ItemEdit`): the Benchmark keeps its unique ids, and each later lookup finds an item of the
kind it found before (`XccdfBenchmark.getItem_edit`). `xccdf_refine_rule_get_weight` of a
refine-rule without a weight is not under src/; the model takes that weight as a parameter
`unsetWeight`.

* `resolve_spec`: `xccdf_policy_resolve` returns true exactly when every refine-rule names an
  item and none that names a Group defines a weight: the source turns back the Groups whose
  weight IS defined, under a message saying it is not. The Benchmark then ends as one edit
  (`resolvedEdit`): each Rule with the role and severity of its LAST refine-rule and its
  weight unchanged, each Group named by a refine-rule with the weight `unsetWeight`.
* `resolve_snd_takeWhile`: a failed call keeps the edits of the refine-rules before the one it
  stopped at.
* `resolve_resolve`: a second call with the same policy returns what the first returned and
  changes nothing.
* `resolve_twoPolicies`: two policies resolved one after the other on the Benchmark they share
  act as one call over both profiles' refine-rules, the second profile's last.
-/

namespace Xccdf

/-! ## Edits that keep ids -/

/-- An edit of the fields of every Rule and every Group that keeps their ids. -/
@[ext]
structure ItemEdit where
  rule : XccdfRule → XccdfRule
  group : XccdfGroup → XccdfGroup
  rule_id : ∀ r, (rule r).id = r.id
  group_id : ∀ g, (group g).id = g.id

/-- The edit `first`, then the edit `second`. -/
def ItemEdit.andThen (first second : ItemEdit) : ItemEdit where
  rule r := second.rule (first.rule r)
  group g := second.group (first.group g)
  rule_id r := by rw [second.rule_id, first.rule_id]
  group_id g := by rw [second.group_id, first.group_id]

/-- The edit of the item with id `id` only: `rule` on a Rule, `group` on a Group. -/
def ItemEdit.atId (id : String) (rule : XccdfRule → XccdfRule) (group : XccdfGroup → XccdfGroup)
    (rule_id : ∀ r, (rule r).id = r.id) (group_id : ∀ g, (group g).id = g.id) : ItemEdit where
  rule r := if r.id = id then rule r else r
  group g := if g.id = id then group g else g
  rule_id r := by dsimp only; split <;> simp [*]
  group_id g := by dsimp only; split <;> simp [*]

mutual
/-- The edit applied to the item and to everything below it. -/
def XccdfItem.edit (e : ItemEdit) : XccdfItem → XccdfItem
  | .rule r => .rule (e.rule r)
  | .group g content => .group (e.group g) (XccdfItem.listEdit e content)
  | .value v => .value v

/-- `XccdfItem.edit` over a content list. -/
def XccdfItem.listEdit (e : ItemEdit) : List XccdfItem → List XccdfItem
  | [] => []
  | item :: items => item.edit e :: XccdfItem.listEdit e items
end

mutual
theorem XccdfItem.ids_edit (e : ItemEdit) : ∀ item : XccdfItem, (item.edit e).ids = item.ids
  | .rule r => by simp [XccdfItem.edit, XccdfItem.ids, e.rule_id]
  | .group g content => by
    simp [XccdfItem.edit, XccdfItem.ids, e.group_id, XccdfItem.listIds_listEdit e content]
  | .value _ => rfl

theorem XccdfItem.listIds_listEdit (e : ItemEdit) :
    ∀ items : List XccdfItem,
      XccdfItem.listIds (XccdfItem.listEdit e items) = XccdfItem.listIds items
  | [] => rfl
  | item :: items => by
    simp [XccdfItem.listEdit, XccdfItem.listIds, XccdfItem.ids_edit e item,
      XccdfItem.listIds_listEdit e items]
end

mutual
theorem XccdfItem.edit_edit (first second : ItemEdit) :
    ∀ item : XccdfItem, (item.edit first).edit second = item.edit (first.andThen second)
  | .rule _ => rfl
  | .group g content => by
    rw [XccdfItem.edit, XccdfItem.edit, XccdfItem.edit, XccdfItem.listEdit_listEdit]
    rfl
  | .value _ => rfl

theorem XccdfItem.listEdit_listEdit (first second : ItemEdit) :
    ∀ items : List XccdfItem, XccdfItem.listEdit second (XccdfItem.listEdit first items) =
      XccdfItem.listEdit (first.andThen second) items
  | [] => rfl
  | item :: items => by
    rw [XccdfItem.listEdit, XccdfItem.listEdit, XccdfItem.listEdit, XccdfItem.edit_edit,
      XccdfItem.listEdit_listEdit]
end

mutual
/-- An edited item finds the edited items, with the edited Groups above them. -/
theorem XccdfItem.find_edit (e : ItemEdit) (id : String) :
    ∀ item : XccdfItem,
      (item.edit e).find id = (item.find id).map fun p => (p.1.edit e, p.2.map e.group)
  | .rule r => by
    simp only [XccdfItem.edit, XccdfItem.find, e.rule_id]
    split <;> rfl
  | .group g content => by
    simp only [XccdfItem.edit, XccdfItem.find, e.group_id]
    split
    · rfl
    · rw [XccdfItem.listFind_listEdit, Option.map_map, Option.map_map]
      rfl
  | .value v => by
    simp only [XccdfItem.edit, XccdfItem.find]
    split <;> rfl

theorem XccdfItem.listFind_listEdit (e : ItemEdit) (id : String) :
    ∀ items : List XccdfItem, XccdfItem.listFind id (XccdfItem.listEdit e items) =
      (XccdfItem.listFind id items).map fun p => (p.1.edit e, p.2.map e.group)
  | [] => rfl
  | item :: items => by
    simp only [XccdfItem.listEdit, XccdfItem.listFind, XccdfItem.find_edit e id item]
    cases item.find id with
    | none => exact XccdfItem.listFind_listEdit e id items
    | some found => rfl
end

mutual
/-- The Rules below an edited item are the edited Rules, below the edited Groups. -/
theorem XccdfItem.rulePaths_edit (e : ItemEdit) :
    ∀ item : XccdfItem,
      (item.edit e).rulePaths = item.rulePaths.map fun p => (e.rule p.1, p.2.map e.group)
  | .rule _ => rfl
  | .group g content => by
    simp [XccdfItem.edit, XccdfItem.rulePaths, XccdfItem.listRulePaths_listEdit e content]
  | .value _ => rfl

theorem XccdfItem.listRulePaths_listEdit (e : ItemEdit) :
    ∀ items : List XccdfItem, XccdfItem.listRulePaths (XccdfItem.listEdit e items) =
      (XccdfItem.listRulePaths items).map fun p => (e.rule p.1, p.2.map e.group)
  | [] => rfl
  | item :: items => by
    simp [XccdfItem.listEdit, XccdfItem.listRulePaths, XccdfItem.rulePaths_edit e item,
      XccdfItem.listRulePaths_listEdit e items]
end

/-- The edit applied to the Benchmark's content; its ids stay unique. -/
def XccdfBenchmark.edit (benchmark : XccdfBenchmark) (e : ItemEdit) : XccdfBenchmark :=
  { benchmark with
    content := XccdfItem.listEdit e benchmark.content
    ids_nodup := by rw [XccdfItem.listIds_listEdit]; exact benchmark.ids_nodup }

theorem XccdfBenchmark.getItem_edit (benchmark : XccdfBenchmark) (e : ItemEdit) (id : String) :
    (benchmark.edit e).getItem id =
      (benchmark.getItem id).map fun p => (p.1.edit e, p.2.map e.group) :=
  XccdfItem.listFind_listEdit e id benchmark.content

theorem XccdfBenchmark.rulePaths_edit (benchmark : XccdfBenchmark) (e : ItemEdit) :
    (benchmark.edit e).rulePaths =
      benchmark.rulePaths.map fun p => (e.rule p.1, p.2.map e.group) :=
  XccdfItem.listRulePaths_listEdit e benchmark.content

theorem XccdfBenchmark.edit_edit (benchmark : XccdfBenchmark) (first second : ItemEdit) :
    (benchmark.edit first).edit second = benchmark.edit (first.andThen second) := by
  simp only [XccdfBenchmark.edit, XccdfItem.listEdit_listEdit]

/-! ## `xccdf_policy_resolve` -/

/-- `xccdf_group_set_weight` on the Group `id`. -/
def setGroupWeight (id : String) (weight : ℚ) : ItemEdit :=
  ItemEdit.atId id (fun r => r) (fun g => { g with weight := weight }) (fun _ => rfl) fun _ => rfl

/-- `xccdf_rule_set_role` on the Rule `id`. -/
def setRuleRole (id : String) (role : Int) : ItemEdit :=
  ItemEdit.atId id (fun r => { r with role := role }) (fun g => g) (fun _ => rfl) fun _ => rfl

/-- `xccdf_rule_set_severity` on the Rule `id`. -/
def setRuleSeverity (id : String) (severity : Int) : ItemEdit :=
  ItemEdit.atId id (fun r => { r with severity := severity }) (fun g => g) (fun _ => rfl)
    fun _ => rfl

/-- `xccdf_refine_rule_weight_defined`. -/
def xccdfRefineRuleWeightDefined (refineRule : XccdfRefineRule) : Bool :=
  refineRule.weight.isSome

/-- `xccdf_refine_rule_get_weight` is not under src/: the defined weight, else
`unsetWeight`. -/
def xccdfRefineRuleGetWeight (unsetWeight : ℚ) (refineRule : XccdfRefineRule) : ℚ :=
  refineRule.weight.getD unsetWeight

/-- The loop of `xccdf_policy_resolve` over refine-rules, on the Benchmark as the earlier ones
left it: false, with the Benchmark as it is then, at a refine-rule that names no item or that
names a Group and defines a weight. A Group otherwise takes the refine-rule's weight; a Rule
its role and severity (the source tests them with `isnan` on integer codes, which never holds);
a Value nothing. -/
def resolveRefineRules (unsetWeight : ℚ) (benchmark : XccdfBenchmark) :
    List XccdfRefineRule → Bool × XccdfBenchmark
  | [] => (true, benchmark)
  | refineRule :: refineRules =>
    match benchmark.getItem refineRule.item with
    | none => (false, benchmark)
    | some (.group g _, _) =>
      if xccdfRefineRuleWeightDefined refineRule then (false, benchmark)
      else
        resolveRefineRules unsetWeight
          (benchmark.edit (setGroupWeight g.id (xccdfRefineRuleGetWeight unsetWeight refineRule)))
          refineRules
    | some (.rule r, _) =>
      resolveRefineRules unsetWeight
        ((benchmark.edit (setRuleRole r.id refineRule.role)).edit
          (setRuleSeverity r.id refineRule.severity))
        refineRules
    | some (.value _, _) => resolveRefineRules unsetWeight benchmark refineRules

/-- `xccdf_policy_resolve(policy)` on the Benchmark of the policy model: the result, and the
Benchmark as the call leaves it. -/
def xccdfPolicyResolve (unsetWeight : ℚ) (benchmark : XccdfBenchmark) (policy : XccdfPolicy) :
    Bool × XccdfBenchmark :=
  resolveRefineRules unsetWeight benchmark policy.profile.refineRules

/-! ## What `xccdf_policy_resolve` leaves -/

/-- The id names a Group of the Benchmark. -/
def XccdfBenchmark.isGroup (benchmark : XccdfBenchmark) (id : String) : Bool :=
  match benchmark.getItem id with
  | some (.group _ _, _) => true
  | _ => false

/-- The refine-rules as one edit: each Rule takes the role and severity of the LAST
refine-rule that names it, each Group named by a refine-rule the weight `unsetWeight`. -/
def resolvedEdit (benchmark : XccdfBenchmark) (unsetWeight : ℚ)
    (refineRules : List XccdfRefineRule) : ItemEdit where
  rule r :=
    match lastMatch (·.item) (refineRules.filter (benchmark.isRule ·.item)) r.id with
    | some refineRule => { r with role := refineRule.role, severity := refineRule.severity }
    | none => r
  group g :=
    if refineRules.any fun refineRule =>
        benchmark.isGroup refineRule.item && refineRule.item = g.id then
      { g with weight := unsetWeight }
    else g
  rule_id r := by dsimp only; split <;> rfl
  group_id g := by dsimp only; split <;> rfl

/-- A refine-rule `xccdf_policy_resolve` accepts: it names an item, and defines no weight when
that item is a Group. -/
def XccdfBenchmark.Resolvable (benchmark : XccdfBenchmark) (refineRule : XccdfRefineRule) :
    Prop :=
  (benchmark.getItem refineRule.item).isSome = true ∧
    (benchmark.isGroup refineRule.item = true → refineRule.weight = none)

theorem lastMatch_cons {α : Type} (key : α → String) (item : α) (items : List α) (id : String) :
    lastMatch key (item :: items) id =
      (lastMatch key items id).or (if key item = id then some item else none) := by
  have h := foldl_ite_some_eq_getLast? (key · = id) items
  simp only [decide_eq_true_eq] at h
  rw [lastMatch, List.foldl_cons, h, lastMatch, h, Option.or_none]

theorem XccdfBenchmark.edit_congr (benchmark : XccdfBenchmark) {e e' : ItemEdit}
    (hrule : ∀ r, e.rule r = e'.rule r) (hgroup : ∀ g, e.group g = e'.group g) :
    benchmark.edit e = benchmark.edit e' :=
  congrArg benchmark.edit (ItemEdit.ext (funext hrule) (funext hgroup))

theorem XccdfBenchmark.isRule_edit (benchmark : XccdfBenchmark) (e : ItemEdit) (id : String) :
    (benchmark.edit e).isRule id = benchmark.isRule id := by
  simp only [XccdfBenchmark.isRule, XccdfBenchmark.getItem_edit]
  rcases benchmark.getItem id with _ | ⟨_ | _ | _, _⟩ <;> rfl

theorem XccdfBenchmark.isGroup_edit (benchmark : XccdfBenchmark) (e : ItemEdit) (id : String) :
    (benchmark.edit e).isGroup id = benchmark.isGroup id := by
  simp only [XccdfBenchmark.isGroup, XccdfBenchmark.getItem_edit]
  rcases benchmark.getItem id with _ | ⟨_ | _ | _, _⟩ <;> rfl

theorem XccdfBenchmark.resolvable_edit (benchmark : XccdfBenchmark) (e : ItemEdit)
    (refineRule : XccdfRefineRule) :
    (benchmark.edit e).Resolvable refineRule ↔ benchmark.Resolvable refineRule := by
  simp [XccdfBenchmark.Resolvable, XccdfBenchmark.getItem_edit, XccdfBenchmark.isGroup_edit]

theorem resolvedEdit_edit (benchmark : XccdfBenchmark) (e : ItemEdit) (unsetWeight : ℚ)
    (refineRules : List XccdfRefineRule) :
    resolvedEdit (benchmark.edit e) unsetWeight refineRules =
      resolvedEdit benchmark unsetWeight refineRules := by
  simp only [resolvedEdit, XccdfBenchmark.isRule_edit, XccdfBenchmark.isGroup_edit]

mutual
/-- An edit that changes no Rule and no Group leaves the item as it is. -/
theorem XccdfItem.edit_eq_self {e : ItemEdit} (hrule : ∀ r, e.rule r = r)
    (hgroup : ∀ g, e.group g = g) : ∀ item : XccdfItem, item.edit e = item
  | .rule r => by rw [XccdfItem.edit, hrule]
  | .group g content => by
    rw [XccdfItem.edit, hgroup, XccdfItem.listEdit_eq_self hrule hgroup content]
  | .value _ => rfl

theorem XccdfItem.listEdit_eq_self {e : ItemEdit} (hrule : ∀ r, e.rule r = r)
    (hgroup : ∀ g, e.group g = g) : ∀ items : List XccdfItem, XccdfItem.listEdit e items = items
  | [] => rfl
  | item :: items => by
    rw [XccdfItem.listEdit, XccdfItem.edit_eq_self hrule hgroup item,
      XccdfItem.listEdit_eq_self hrule hgroup items]
end

theorem XccdfBenchmark.edit_resolvedEdit_nil (benchmark : XccdfBenchmark) (unsetWeight : ℚ) :
    benchmark.edit (resolvedEdit benchmark unsetWeight []) = benchmark := by
  have hcontent : XccdfItem.listEdit (resolvedEdit benchmark unsetWeight []) benchmark.content =
      benchmark.content :=
    XccdfItem.listEdit_eq_self (fun _ => rfl) (fun _ => rfl) _
  simp only [XccdfBenchmark.edit, hcontent]

section Step

variable {benchmark : XccdfBenchmark} {unsetWeight : ℚ} {refineRule : XccdfRefineRule}
  {refineRules : List XccdfRefineRule} {path : List XccdfGroup}

/-- A refine-rule that names a Rule: its role and severity, then the later refine-rules, are
the refine-rules as one edit. -/
theorem resolvedEdit_cons_rule {r : XccdfRule}
    (h : benchmark.getItem refineRule.item = some (.rule r, path)) :
    benchmark.edit (((setRuleRole r.id refineRule.role).andThen
        (setRuleSeverity r.id refineRule.severity)).andThen
          (resolvedEdit benchmark unsetWeight refineRules)) =
      benchmark.edit (resolvedEdit benchmark unsetWeight (refineRule :: refineRules)) := by
  have hid : r.id = refineRule.item := benchmark.getItem_id h
  have hrule : benchmark.isRule refineRule.item = true := by simp [XccdfBenchmark.isRule, h]
  have hgroup : benchmark.isGroup refineRule.item = false := by simp [XccdfBenchmark.isGroup, h]
  have hfilter : (refineRule :: refineRules).filter (benchmark.isRule ·.item) =
      refineRule :: refineRules.filter (benchmark.isRule ·.item) := List.filter_cons_of_pos hrule
  refine benchmark.edit_congr (fun rule => ?_) (fun group => ?_)
  · simp only [ItemEdit.andThen, setRuleRole, setRuleSeverity, ItemEdit.atId, resolvedEdit,
      hfilter, lastMatch_cons, hid]
    by_cases hr : rule.id = refineRule.item
    · simp only [hr, if_true]
      rcases hlast : lastMatch (·.item) (refineRules.filter (benchmark.isRule ·.item))
        refineRule.item with _ | last <;> simp [hlast]
    · have hr' : refineRule.item ≠ rule.id := Ne.symm hr
      simp [hr, hr']
  · simp [ItemEdit.andThen, setRuleRole, setRuleSeverity, ItemEdit.atId, resolvedEdit, hgroup]

/-- A refine-rule without a weight that names a Group: the Group's new weight, then the later
refine-rules, are the refine-rules as one edit. -/
theorem resolvedEdit_cons_group {g : XccdfGroup} {content : List XccdfItem}
    (h : benchmark.getItem refineRule.item = some (.group g content, path)) :
    benchmark.edit ((setGroupWeight g.id unsetWeight).andThen
        (resolvedEdit benchmark unsetWeight refineRules)) =
      benchmark.edit (resolvedEdit benchmark unsetWeight (refineRule :: refineRules)) := by
  have hid : g.id = refineRule.item := benchmark.getItem_id h
  have hrule : benchmark.isRule refineRule.item = false := by simp [XccdfBenchmark.isRule, h]
  have hgroup : benchmark.isGroup refineRule.item = true := by simp [XccdfBenchmark.isGroup, h]
  refine benchmark.edit_congr (fun rule => ?_) (fun group => ?_)
  · simp [ItemEdit.andThen, setGroupWeight, ItemEdit.atId, resolvedEdit, hrule]
  · simp only [ItemEdit.andThen, setGroupWeight, ItemEdit.atId, resolvedEdit, List.any_cons,
      hgroup, hid, Bool.true_and]
    by_cases hg : group.id = refineRule.item
    · simp only [hg, if_true, decide_True, Bool.true_or]
      split <;> rfl
    · simp [hg, Ne.symm hg]

/-- A refine-rule that names a Value changes nothing. -/
theorem resolvedEdit_cons_value {v : XccdfValue}
    (h : benchmark.getItem refineRule.item = some (.value v, path)) :
    benchmark.edit (resolvedEdit benchmark unsetWeight refineRules) =
      benchmark.edit (resolvedEdit benchmark unsetWeight (refineRule :: refineRules)) := by
  have hrule : benchmark.isRule refineRule.item = false := by simp [XccdfBenchmark.isRule, h]
  have hgroup : benchmark.isGroup refineRule.item = false := by simp [XccdfBenchmark.isGroup, h]
  exact benchmark.edit_congr (fun _ => by simp [resolvedEdit, hrule])
    (fun _ => by simp [resolvedEdit, hgroup])

end Step

/-- The loop of `xccdf_policy_resolve` succeeds exactly when every refine-rule is resolvable,
and then leaves the Benchmark edited by the refine-rules as one edit. -/
theorem resolveRefineRules_spec (unsetWeight : ℚ) :
    ∀ (refineRules : List XccdfRefineRule) (benchmark : XccdfBenchmark),
      ((resolveRefineRules unsetWeight benchmark refineRules).1 = true ↔
        ∀ refineRule ∈ refineRules, benchmark.Resolvable refineRule) ∧
      ((resolveRefineRules unsetWeight benchmark refineRules).1 = true →
        (resolveRefineRules unsetWeight benchmark refineRules).2 =
          benchmark.edit (resolvedEdit benchmark unsetWeight refineRules))
  | [], benchmark => ⟨by simp [resolveRefineRules], fun _ =>
      (benchmark.edit_resolvedEdit_nil unsetWeight).symm⟩
  | refineRule :: refineRules, benchmark => by
    rcases hitem : benchmark.getItem refineRule.item with _ | ⟨found, path⟩
    · have hnot : ¬benchmark.Resolvable refineRule := by simp [XccdfBenchmark.Resolvable, hitem]
      simp [resolveRefineRules, hitem, hnot]
    · cases found with
      | rule r =>
        have hok : benchmark.Resolvable refineRule := by
          simp [XccdfBenchmark.Resolvable, XccdfBenchmark.isGroup, hitem]
        have ih := resolveRefineRules_spec unsetWeight refineRules
          ((benchmark.edit (setRuleRole r.id refineRule.role)).edit
            (setRuleSeverity r.id refineRule.severity))
        simp only [XccdfBenchmark.resolvable_edit, resolvedEdit_edit, XccdfBenchmark.edit_edit]
          at ih
        simp only [resolveRefineRules, hitem, List.forall_mem_cons, hok, true_and,
          XccdfBenchmark.edit_edit]
        exact ⟨ih.1, fun h => (ih.2 h).trans (resolvedEdit_cons_rule hitem)⟩
      | group g content =>
        by_cases hweight : xccdfRefineRuleWeightDefined refineRule = true
        · have hnot : ¬benchmark.Resolvable refineRule := fun hok => by
            simp [xccdfRefineRuleWeightDefined, hok.2 (by simp [XccdfBenchmark.isGroup, hitem])]
              at hweight
          simp [resolveRefineRules, hitem, hweight, hnot]
        · have hnone : refineRule.weight = none := by
            simpa [xccdfRefineRuleWeightDefined] using hweight
          have hok : benchmark.Resolvable refineRule := by
            simp [XccdfBenchmark.Resolvable, hitem, hnone]
          have ih := resolveRefineRules_spec unsetWeight refineRules
            (benchmark.edit (setGroupWeight g.id unsetWeight))
          simp only [XccdfBenchmark.resolvable_edit, resolvedEdit_edit, XccdfBenchmark.edit_edit]
            at ih
          simp only [resolveRefineRules, hitem, hweight, xccdfRefineRuleGetWeight, hnone,
            Option.getD_none, List.forall_mem_cons, hok, true_and, Bool.false_eq_true, if_false]
          exact ⟨ih.1, fun h => (ih.2 h).trans (resolvedEdit_cons_group hitem)⟩
      | value v =>
        have hok : benchmark.Resolvable refineRule := by
          simp [XccdfBenchmark.Resolvable, XccdfBenchmark.isGroup, hitem]
        have ih := resolveRefineRules_spec unsetWeight refineRules benchmark
        simp only [resolveRefineRules, hitem, List.forall_mem_cons, hok, true_and]
        exact ⟨ih.1, fun h => (ih.2 h).trans (resolvedEdit_cons_value hitem)⟩

/-- `xccdf_policy_resolve` returns true exactly when every refine-rule of the profile names an
item and none that names a Group defines a weight; the Benchmark then ends with each Rule's
role and severity from its LAST refine-rule and its weight unchanged, and each Group named by
a refine-rule with the weight `unsetWeight` that `xccdf_refine_rule_get_weight` gives a
refine-rule without one. -/
theorem resolve_spec (unsetWeight : ℚ) (benchmark : XccdfBenchmark) (policy : XccdfPolicy) :
    ((xccdfPolicyResolve unsetWeight benchmark policy).1 = true ↔
      ∀ refineRule ∈ policy.profile.refineRules,
        (benchmark.getItem refineRule.item).isSome = true ∧
          (benchmark.isGroup refineRule.item = true → refineRule.weight = none)) ∧
    ((xccdfPolicyResolve unsetWeight benchmark policy).1 = true →
      (xccdfPolicyResolve unsetWeight benchmark policy).2 =
        benchmark.edit (resolvedEdit benchmark unsetWeight policy.profile.refineRules)) :=
  resolveRefineRules_spec unsetWeight policy.profile.refineRules benchmark

/-! ## Failed and repeated calls -/

instance XccdfBenchmark.decidableResolvable (benchmark : XccdfBenchmark)
    (refineRule : XccdfRefineRule) : Decidable (benchmark.Resolvable refineRule) :=
  inferInstanceAs (Decidable (_ ∧ (_ → _)))

/-- The loop of `xccdf_policy_resolve` leaves the Benchmark edited by the refine-rules before the
first one it rejects, all of them when it rejects none. -/
theorem resolveRefineRules_snd (unsetWeight : ℚ) :
    ∀ (refineRules : List XccdfRefineRule) (benchmark : XccdfBenchmark),
      (resolveRefineRules unsetWeight benchmark refineRules).2 =
        benchmark.edit (resolvedEdit benchmark unsetWeight
          (refineRules.takeWhile fun refineRule => decide (benchmark.Resolvable refineRule)))
  | [], benchmark => (benchmark.edit_resolvedEdit_nil unsetWeight).symm
  | refineRule :: refineRules, benchmark => by
    rcases hitem : benchmark.getItem refineRule.item with _ | ⟨found, path⟩
    · have hnot : ¬benchmark.Resolvable refineRule := by simp [XccdfBenchmark.Resolvable, hitem]
      simp [resolveRefineRules, hitem, List.takeWhile_cons, hnot,
        XccdfBenchmark.edit_resolvedEdit_nil]
    · cases found with
      | rule r =>
        have hok : benchmark.Resolvable refineRule := by
          simp [XccdfBenchmark.Resolvable, XccdfBenchmark.isGroup, hitem]
        have ih := resolveRefineRules_snd unsetWeight refineRules
          ((benchmark.edit (setRuleRole r.id refineRule.role)).edit
            (setRuleSeverity r.id refineRule.severity))
        simp only [XccdfBenchmark.resolvable_edit, resolvedEdit_edit, XccdfBenchmark.edit_edit]
          at ih
        simp only [resolveRefineRules, hitem, List.takeWhile_cons, hok, decide_True, if_true,
          XccdfBenchmark.edit_edit, ih]
        exact resolvedEdit_cons_rule hitem
      | group g content =>
        by_cases hweight : xccdfRefineRuleWeightDefined refineRule = true
        · have hnot : ¬benchmark.Resolvable refineRule := fun hok => by
            simp [xccdfRefineRuleWeightDefined, hok.2 (by simp [XccdfBenchmark.isGroup, hitem])]
              at hweight
          simp [resolveRefineRules, hitem, hweight, List.takeWhile_cons, hnot,
            XccdfBenchmark.edit_resolvedEdit_nil]
        · have hnone : refineRule.weight = none := by
            simpa [xccdfRefineRuleWeightDefined] using hweight
          have hok : benchmark.Resolvable refineRule := by
            simp [XccdfBenchmark.Resolvable, hitem, hnone]
          have ih := resolveRefineRules_snd unsetWeight refineRules
            (benchmark.edit (setGroupWeight g.id unsetWeight))
          simp only [XccdfBenchmark.resolvable_edit, resolvedEdit_edit, XccdfBenchmark.edit_edit]
            at ih
          simp only [resolveRefineRules, hitem, hweight, xccdfRefineRuleGetWeight, hnone,
            Option.getD_none, Bool.false_eq_true, if_false, List.takeWhile_cons, hok,
            decide_True, if_true, ih]
          exact resolvedEdit_cons_group hitem
      | value v =>
        have hok : benchmark.Resolvable refineRule := by
          simp [XccdfBenchmark.Resolvable, XccdfBenchmark.isGroup, hitem]
        simp only [resolveRefineRules, hitem, List.takeWhile_cons, hok, decide_True, if_true,
          resolveRefineRules_snd unsetWeight refineRules benchmark]
        exact resolvedEdit_cons_value hitem

/-- Whether it succeeds or not, `xccdf_policy_resolve` leaves the Benchmark edited by the
profile's refine-rules before the first one it rejects: a failed call keeps the edits it made
before the refine-rule it stopped at. -/
theorem resolve_snd_takeWhile (unsetWeight : ℚ) (benchmark : XccdfBenchmark)
    (policy : XccdfPolicy) :
    (xccdfPolicyResolve unsetWeight benchmark policy).2 =
      benchmark.edit (resolvedEdit benchmark unsetWeight
        (policy.profile.refineRules.takeWhile fun refineRule =>
          decide (benchmark.Resolvable refineRule))) :=
  resolveRefineRules_snd unsetWeight policy.profile.refineRules benchmark

/-- The refine-rules as one edit write values that do not depend on the fields they overwrite:
applying the edit twice is applying it once. -/
theorem resolvedEdit_andThen_self (benchmark : XccdfBenchmark) (unsetWeight : ℚ)
    (refineRules : List XccdfRefineRule) :
    (resolvedEdit benchmark unsetWeight refineRules).andThen
        (resolvedEdit benchmark unsetWeight refineRules) =
      resolvedEdit benchmark unsetWeight refineRules := by
  refine ItemEdit.ext (funext fun r => ?_) (funext fun g => ?_)
  · rcases h : lastMatch (·.item) (refineRules.filter (benchmark.isRule ·.item)) r.id with
      _ | refineRule <;> simp [ItemEdit.andThen, resolvedEdit, h]
  · by_cases h : refineRules.any fun refineRule =>
        benchmark.isGroup refineRule.item && refineRule.item = g.id
    · simp only [ItemEdit.andThen, resolvedEdit, h, if_true]
    · simp only [ItemEdit.andThen, resolvedEdit, h, Bool.false_eq_true, if_false]

/-- A second call of `xccdf_policy_resolve` on the Benchmark the first one left returns what the
first returned and changes nothing, whether the first call succeeded or not. -/
theorem resolve_resolve (unsetWeight : ℚ) (benchmark : XccdfBenchmark) (policy : XccdfPolicy) :
    xccdfPolicyResolve unsetWeight (xccdfPolicyResolve unsetWeight benchmark policy).2 policy =
      xccdfPolicyResolve unsetWeight benchmark policy := by
  simp only [xccdfPolicyResolve]
  have hsnd := resolveRefineRules_snd unsetWeight policy.profile.refineRules benchmark
  refine Prod.ext (Bool.eq_iff_iff.mpr ?_) ?_
  · rw [(resolveRefineRules_spec unsetWeight _ _).1, (resolveRefineRules_spec unsetWeight _ _).1,
      hsnd]
    simp only [XccdfBenchmark.resolvable_edit]
  · rw [resolveRefineRules_snd, hsnd]
    simp only [XccdfBenchmark.resolvable_edit, resolvedEdit_edit, XccdfBenchmark.edit_edit,
      resolvedEdit_andThen_self]

/-- After a call that succeeded, the loop of `xccdf_policy_resolve` over more refine-rules
goes on as one loop over all of them. -/
theorem resolveRefineRules_append (unsetWeight : ℚ) :
    ∀ (first second : List XccdfRefineRule) (benchmark : XccdfBenchmark),
      (resolveRefineRules unsetWeight benchmark first).1 = true →
        resolveRefineRules unsetWeight (resolveRefineRules unsetWeight benchmark first).2 second =
          resolveRefineRules unsetWeight benchmark (first ++ second)
  | [], _, _, _ => rfl
  | refineRule :: first, second, benchmark, h => by
    rw [List.cons_append]
    rcases hitem : benchmark.getItem refineRule.item with _ | ⟨_ | ⟨g, _⟩ | _, _⟩ <;>
      simp only [resolveRefineRules, hitem] at h ⊢
    · cases h
    · exact resolveRefineRules_append unsetWeight first second _ h
    · by_cases hweight : xccdfRefineRuleWeightDefined refineRule = true
      · simp only [hweight, if_true] at h
        cases h
      · simp only [hweight, Bool.false_eq_true, if_false] at h ⊢
        exact resolveRefineRules_append unsetWeight first second _ h
    · exact resolveRefineRules_append unsetWeight first second _ h

/-- Two policies of one model resolved one after the other, on the Benchmark they share: the
second call succeeds exactly when it would on the Benchmark as it was, and the Benchmark then
ends as the one edit of the first profile's refine-rules followed by the second's, so each
Rule has the role and severity of its last refine-rule in the second profile, else in the
first. -/
theorem resolve_twoPolicies (unsetWeight : ℚ) (benchmark : XccdfBenchmark)
    (first second : XccdfPolicy)
    (hfirst : (xccdfPolicyResolve unsetWeight benchmark first).1 = true) :
    (xccdfPolicyResolve unsetWeight (xccdfPolicyResolve unsetWeight benchmark first).2 second).1 =
        (xccdfPolicyResolve unsetWeight benchmark second).1 ∧
      ((xccdfPolicyResolve unsetWeight benchmark second).1 = true →
        (xccdfPolicyResolve unsetWeight (xccdfPolicyResolve unsetWeight benchmark first).2
            second).2 =
          benchmark.edit (resolvedEdit benchmark unsetWeight
            (first.profile.refineRules ++ second.profile.refineRules))) := by
  have hall := resolveRefineRules_spec unsetWeight
    (first.profile.refineRules ++ second.profile.refineRules) benchmark
  have hfirst' := (resolveRefineRules_spec unsetWeight _ benchmark).1.mp hfirst
  have hsecond := (resolveRefineRules_spec unsetWeight second.profile.refineRules benchmark).1
  simp only [xccdfPolicyResolve] at hfirst ⊢
  rw [resolveRefineRules_append unsetWeight _ _ benchmark hfirst]
  have hiff : (resolveRefineRules unsetWeight benchmark
      (first.profile.refineRules ++ second.profile.refineRules)).1 = true ↔
      (resolveRefineRules unsetWeight benchmark second.profile.refineRules).1 = true := by
    rw [hall.1, hsecond, List.forall_mem_append]
    exact and_iff_right hfirst'
  exact ⟨Bool.eq_iff_iff.mpr hiff, fun h => hall.2 (hiff.mpr h)⟩

/-- The new policy on `oneRuleBenchmark` of a profile refining `r` to role and severity
`code`. -/
def refiningRulePolicy (code : Int) : XccdfPolicy :=
  xccdfPolicyNew oneRuleBenchmark
    { emptyProfile with refineRules := [⟨"r", none, none, code, code⟩] }

theorem resolve_twoPolicies_oneRule :
    (xccdfPolicyResolve 1 oneRuleBenchmark (refiningRulePolicy 2)).1 = true ∧
      (xccdfPolicyResolve 1 (xccdfPolicyResolve 1 oneRuleBenchmark (refiningRulePolicy 2)).2
          (refiningRulePolicy 3)).1 =
        (xccdfPolicyResolve 1 oneRuleBenchmark (refiningRulePolicy 3)).1 ∧
      ((xccdfPolicyResolve 1 oneRuleBenchmark (refiningRulePolicy 3)).1 = true →
        (xccdfPolicyResolve 1 (xccdfPolicyResolve 1 oneRuleBenchmark (refiningRulePolicy 2)).2
            (refiningRulePolicy 3)).2 =
          oneRuleBenchmark.edit (resolvedEdit oneRuleBenchmark 1
            ((refiningRulePolicy 2).profile.refineRules ++
              (refiningRulePolicy 3).profile.refineRules))) :=
  ⟨by decide, resolve_twoPolicies 1 oneRuleBenchmark _ _ (by decide)⟩

end Xccdf
