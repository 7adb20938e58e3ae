import XccdfPolicy.Benchmark

/-!
# Selection: `xccdf_policy_new` and the policy's select list

A policy starts from a clone of its profile's selects; `xccdf_policy_resolve_item` then
walks the Benchmark in document order with the inherited flag `selected`, and-ing a Rule's
existing select with it or appending a select for a Rule the list does not name yet. A
Group's flag is its first select, or its own attribute, and a deselected Group passes
`false` down. The select list is then indexed by `ht_selects`.

* `selectsFor_listResolve`: the effect of the walk on the entries of each id, by induction
  over the tree — ids outside the walked items keep their entries, and the entries of a Rule
  are those of `resolvedEntries`.
* `getSelectById_policyNew`: every Rule's recorded flag is `effectiveSelected`, the Rule's
  and its Groups' selections and-ed.
* `length_selectsFor_of_reachable`: in every policy reached from `xccdf_policy_new` by
  `xccdf_policy_set_selected`, each Rule id has `max 1 k` entries, `k` the number of the
  profile's selects for it.
* `getSelectById_of_reachableByAdd`: after `xccdf_policy_new` and any `xccdf_policy_add_select`
  calls, the `ht_selects` fast path of `xccdf_policy_get_select_by_id` and the scan of the
  list agree: the lookup finds the first select of the id.
-/

namespace Xccdf

/-! ## Select lists -/

/-- The scan of `xccdf_policy_get_select_by_id` over the select list: the first select for
`itemId`. -/
def findSelect (selects : List XccdfSelect) (itemId : String) : Option XccdfSelect :=
  selects.find? (·.item = itemId)

/-- The flag of the first select for `itemId`, or `default` when there is none. -/
def selectedOr (selects : List XccdfSelect) (itemId : String) (default : Bool) : Bool :=
  match findSelect selects itemId with
  | some sel => sel.selected
  | none => default

/-- `xccdf_select_set_selected` applied to the select `xccdf_policy_get_select_by_id` finds:
the first select for `itemId` gets the flag `selected`. -/
def setSelected (selects : List XccdfSelect) (itemId : String) (selected : Bool) :
    List XccdfSelect :=
  match selects with
  | [] => []
  | sel :: rest =>
    if sel.item = itemId then { sel with selected := selected } :: rest
    else sel :: setSelected rest itemId selected

/-- The entries of a select list for one id, in list order. -/
def selectsFor (selects : List XccdfSelect) (itemId : String) : List XccdfSelect :=
  selects.filter (·.item = itemId)

theorem findSelect_eq_head (selects : List XccdfSelect) (itemId : String) :
    findSelect selects itemId = (selectsFor selects itemId).head? := by
  simp [findSelect, selectsFor]

/-- Lists with the same entries for an id give that id the same flag. -/
theorem selectedOr_congr {selects selects' : List XccdfSelect} {itemId : String}
    (h : selectsFor selects' itemId = selectsFor selects itemId) (default : Bool) :
    selectedOr selects' itemId default = selectedOr selects itemId default := by
  simp only [selectedOr, findSelect_eq_head, h]

/-- The entries for a Rule id after resolution: the first one and-ed with `flag`, or a new one
with `flag` and-ed with the Rule's own attribute. -/
def resolvedEntries (itemId : String) (flag default : Bool) :
    List XccdfSelect → List XccdfSelect
  | [] => [{ item := itemId, selected := flag && default }]
  | sel :: rest => { sel with selected := flag && sel.selected } :: rest

theorem selectsFor_setSelected (selects : List XccdfSelect) (itemId x : String) (b : Bool) :
    selectsFor (setSelected selects itemId b) x =
      if x = itemId then
        match selectsFor selects x with
        | [] => []
        | sel :: rest => { sel with selected := b } :: rest
      else selectsFor selects x := by
  induction selects with
  | nil => split <;> rfl
  | cons sel rest ih =>
    by_cases hs : sel.item = itemId
    · by_cases hx : x = itemId
      · subst hx; simp [setSelected, selectsFor, hs]
      · have hne : itemId ≠ x := Ne.symm hx
        simp [setSelected, selectsFor, hs, hx, hne]
    · simp only [setSelected, hs, if_false, selectsFor, List.filter_cons] at ih ⊢
      by_cases hx : sel.item = x
      · subst hx; simp [hs, ih]
      · simp [hx, ih]

/-! ## `xccdf_policy_resolve_item` -/

mutual
/-- `xccdf_policy_resolve_item(policy, item, selected)` on the select list. While the policy is
built its hash table is `NULL`, so `xccdf_policy_has_select` and `xccdf_policy_get_select_by_id`
both scan the list for the first select of the id. -/
def xccdfPolicyResolveItem (selects : List XccdfSelect) (selected : Bool) :
    XccdfItem → List XccdfSelect
  | .rule r =>
    match findSelect selects r.id with
    | none => selects ++ [{ item := r.id, selected := selected && r.selected }]
    | some sel => setSelected selects r.id (selected && sel.selected)
  | .group g content =>
    XccdfItem.xccdfPolicyResolveContent selects (selected && selectedOr selects g.id g.selected)
      content
  | .value _ => selects

/-- The loop of `xccdf_policy_resolve_item` over a Group's content (and of `xccdf_policy_new`
over the Benchmark's), every item getting the same inherited flag. -/
def XccdfItem.xccdfPolicyResolveContent (selects : List XccdfSelect) (selected : Bool) :
    List XccdfItem → List XccdfSelect
  | [] => selects
  | item :: items =>
    XccdfItem.xccdfPolicyResolveContent (xccdfPolicyResolveItem selects selected item) selected
      items
end

theorem selectsFor_resolveItem_rule (selects : List XccdfSelect) (b : Bool) (r : XccdfRule)
    (x : String) :
    selectsFor (xccdfPolicyResolveItem selects b (.rule r)) x =
      if x = r.id then resolvedEntries r.id b r.selected (selectsFor selects r.id)
      else selectsFor selects x := by
  simp only [xccdfPolicyResolveItem, findSelect_eq_head]
  cases hsel : selectsFor selects r.id with
  | nil =>
    simp only [List.head?_nil]
    by_cases hx : x = r.id
    · subst hx
      simp only [selectsFor, List.filter_append] at hsel ⊢
      simp [hsel, resolvedEntries]
    · simp [selectsFor, hx, Ne.symm hx]
  | cons sel rest =>
    simp only [List.head?_cons, selectsFor_setSelected]
    by_cases hx : x = r.id
    · subst hx; simp [hsel, resolvedEntries]
    · simp [hx]

/-- What resolving does to the select list, per id: ids outside the item keep their entries,
and each Rule below it gets `resolvedEntries` with its inherited flag and-ed with the
selections of the Groups on its path. -/
def ResolveSpec (resolved selects : List XccdfSelect) (b : Bool) (ids : List String)
    (rulePaths : List (XccdfRule × List XccdfGroup)) : Prop :=
  (∀ x ∉ ids, selectsFor resolved x = selectsFor selects x) ∧
    ∀ p ∈ rulePaths, selectsFor resolved p.1.id =
      resolvedEntries p.1.id (b && p.2.all fun g => selectedOr selects g.id g.selected)
        p.1.selected (selectsFor selects p.1.id)

mutual
/-- The walk over one item meets `ResolveSpec`. -/
theorem selectsFor_resolveItem :
    ∀ (item : XccdfItem) (selects : List XccdfSelect) (b : Bool), item.ids.Nodup →
      ResolveSpec (xccdfPolicyResolveItem selects b item) selects b item.ids item.rulePaths
  | .rule r, selects, b, _ => by
    refine ⟨fun x hx => ?_, fun p hp => ?_⟩
    · rw [selectsFor_resolveItem_rule, if_neg (by simpa [XccdfItem.ids] using hx)]
    · obtain rfl : p = (r, []) := by simpa [XccdfItem.rulePaths] using hp
      simp [selectsFor_resolveItem_rule]
  | .group g content, selects, b, hnodup => by
    have hc : (XccdfItem.listIds content).Nodup := (List.nodup_cons.mp hnodup).2
    obtain ⟨ih₁, ih₂⟩ := selectsFor_listResolve content selects
      (b && selectedOr selects g.id g.selected) hc
    refine ⟨fun x hx => ih₁ x (by simp_all [XccdfItem.ids]), fun p hp => ?_⟩
    obtain ⟨q, hq, rfl⟩ : ∃ q ∈ XccdfItem.listRulePaths content, (q.1, g :: q.2) = p := by
      simpa [XccdfItem.rulePaths] using hp
    simp only [xccdfPolicyResolveItem, ih₂ q hq, List.all_cons, Bool.and_assoc]
  | .value v, selects, b, _ => ⟨fun _ _ => rfl, fun p hp => by simp [XccdfItem.rulePaths] at hp⟩

/-- The walk over a content list meets `ResolveSpec`. -/
theorem selectsFor_listResolve :
    ∀ (items : List XccdfItem) (selects : List XccdfSelect) (b : Bool),
      (XccdfItem.listIds items).Nodup →
      ResolveSpec (XccdfItem.xccdfPolicyResolveContent selects b items) selects b
        (XccdfItem.listIds items) (XccdfItem.listRulePaths items)
  | [], _, _, _ => ⟨fun _ _ => rfl, fun p hp => by simp [XccdfItem.listRulePaths] at hp⟩
  | item :: items, selects, b, hnodup => by
    simp only [XccdfItem.listIds, List.nodup_append] at hnodup
    obtain ⟨hitem, hitems, hdisj⟩ := hnodup
    obtain ⟨ih₁, ih₂⟩ := selectsFor_resolveItem item selects b hitem
    obtain ⟨jh₁, jh₂⟩ := selectsFor_listResolve items (xccdfPolicyResolveItem selects b item) b
      hitems
    have hframe : ∀ x ∈ XccdfItem.listIds items,
        selectsFor (xccdfPolicyResolveItem selects b item) x = selectsFor selects x :=
      fun x hx => ih₁ x fun hx' => hdisj hx' hx
    refine ⟨fun x hx => ?_, fun p hp => ?_⟩
    · simp only [XccdfItem.listIds, List.mem_append, not_or] at hx
      simp only [XccdfItem.xccdfPolicyResolveContent, jh₁ x hx.2, ih₁ x hx.1]
    · simp only [XccdfItem.listRulePaths, List.mem_append] at hp
      simp only [XccdfItem.xccdfPolicyResolveContent]
      rcases hp with hp | hp
      · have hid := (XccdfItem.mem_ids_of_mem_rulePaths item p hp).1
        rw [jh₁ _ fun h => hdisj hid h, ih₂ p hp]
      · obtain ⟨hid, hgs⟩ := XccdfItem.mem_ids_of_mem_listRulePaths items p hp
        rw [jh₂ p hp, hframe _ hid]
        have hall : (p.2.all fun g => selectedOr (xccdfPolicyResolveItem selects b item) g.id
            g.selected) = p.2.all fun g => selectedOr selects g.id g.selected :=
          Bool.eq_iff_iff.mpr <| by
            simp only [List.all_eq_true]
            exact forall₂_congr fun g hg => by rw [selectedOr_congr (hframe _ (hgs g hg))]
        rw [hall]
end

/-! ## The policy -/

/-- Modelled from the spec: `oscap_htable` is not under src/. `ht_selects` is "the same data
in a hash map"; an entry for a key already present is not added, so the first select of each
item id is the one indexed. -/
def oscapHtableAdd (table : List XccdfSelect) (sel : XccdfSelect) : List XccdfSelect :=
  if table.any (·.item = sel.item) then table else table ++ [sel]

/-- Modelled from the spec: `oscap_htable_get`, the indexed select of a key. -/
def oscapHtableGet (table : List XccdfSelect) (key : String) : Option XccdfSelect :=
  table.find? (·.item = key)

/-- `xccdf_policy`: its profile, its select list and the hash table of selects, and the
TestResults it has produced. -/
structure XccdfPolicy where
  profile : XccdfProfile
  selects : List XccdfSelect
  htSelects : List XccdfSelect
  results : List XccdfResult

/-- `xccdf_policy_new(model, profile)`: clone the profile's selects, resolve every top-level
item of the Benchmark with `selected = true`, then index the selects in list order. -/
def xccdfPolicyNew (benchmark : XccdfBenchmark) (profile : XccdfProfile) : XccdfPolicy :=
  let selects := XccdfItem.xccdfPolicyResolveContent profile.selects true benchmark.content
  { profile := profile, selects := selects, htSelects := selects.foldl oscapHtableAdd [],
    results := [] }

/-- `xccdf_policy_get_select_by_id(policy, item_id)`: the hash table's select, or the first
select of the list. -/
def xccdfPolicyGetSelectById (policy : XccdfPolicy) (itemId : String) : Option XccdfSelect :=
  match oscapHtableGet policy.htSelects itemId with
  | some sel => some sel
  | none => findSelect policy.selects itemId

/-- `xccdf_policy_set_selected(policy, idref)`: `false`, and nothing changes, when a select of
`idref` exists. Otherwise the source hands a `NULL` select to `oscap_list_add` (its own TODO:
the constructor call is missing) and returns `true`; what the list makes of `NULL` is outside
src/, and the model has no state for it (`none`). -/
def xccdfPolicySetSelected (policy : XccdfPolicy) (idref : String) : Option XccdfPolicy × Bool :=
  if policy.selects.any (·.item = idref) then (some policy, false) else (none, true)

/-- Adding a select to the table adds it to the lookup of its own key only, and only when the
key is new. -/
theorem oscapHtableGet_add (table : List XccdfSelect) (sel : XccdfSelect) (key : String) :
    oscapHtableGet (oscapHtableAdd table sel) key =
      (oscapHtableGet table key).or (if sel.item = key then some sel else none) := by
  unfold oscapHtableAdd
  split
  next hany =>
    by_cases hkey : sel.item = key
    · obtain ⟨s, hs, hsk⟩ := List.any_eq_true.mp hany
      obtain ⟨t, ht⟩ : ∃ t, oscapHtableGet table key = some t := Option.isSome_iff_exists.mp <| by
        simp only [oscapHtableGet, List.find?_isSome]
        exact ⟨s, hs, by simpa [← hkey] using hsk⟩
      simp [ht]
    · simp [hkey, Option.or_none]
  next => by_cases hkey : sel.item = key <;> simp [oscapHtableGet, hkey]

/-- Indexing a list first-wins finds what a scan of the list finds. -/
theorem oscapHtableGet_foldl (table selects : List XccdfSelect) (key : String) :
    oscapHtableGet (selects.foldl oscapHtableAdd table) key =
      (oscapHtableGet table key).or (findSelect selects key) := by
  induction selects generalizing table with
  | nil => simp [findSelect, Option.or_none]
  | cons sel rest ih =>
    rw [List.foldl_cons, ih, oscapHtableGet_add]
    by_cases hkey : sel.item = key <;>
      cases oscapHtableGet table key <;> simp [findSelect, hkey]

/-- After `xccdf_policy_new`, the lookup by id finds the first select of the list. -/
theorem getSelectById_policyNew (benchmark : XccdfBenchmark) (profile : XccdfProfile)
    (itemId : String) :
    xccdfPolicyGetSelectById (xccdfPolicyNew benchmark profile) itemId =
      findSelect (xccdfPolicyNew benchmark profile).selects itemId := by
  simp only [xccdfPolicyGetSelectById, xccdfPolicyNew, oscapHtableGet_foldl]
  cases findSelect _ itemId <;> rfl

/-! ## Effective selection -/

/-- `sel(X)`: the profile's (first) select for the item, or the item's own attribute. -/
def profileSelected (profile : XccdfProfile) (itemId : String) (selected : Bool) : Bool :=
  selectedOr profile.selects itemId selected

/-- `eff(R)`: the Rule and every Group on its path are selected under the profile. -/
def effectiveSelected (profile : XccdfProfile) (rule : XccdfRule) (path : List XccdfGroup) :
    Bool :=
  (path.all fun g => profileSelected profile g.id g.selected) &&
    profileSelected profile rule.id rule.selected

/-- The entries `xccdf_policy_new` leaves for each Rule of the Benchmark. -/
theorem selectsFor_policyNew (benchmark : XccdfBenchmark) (profile : XccdfProfile)
    {p : XccdfRule × List XccdfGroup} (hp : p ∈ benchmark.rulePaths) :
    selectsFor (xccdfPolicyNew benchmark profile).selects p.1.id =
      resolvedEntries p.1.id (p.2.all fun g => profileSelected profile g.id g.selected)
        p.1.selected (selectsFor profile.selects p.1.id) := by
  have := (selectsFor_listResolve benchmark.content profile.selects true benchmark.ids_nodup).2 p hp
  simpa [xccdfPolicyNew, profileSelected] using this

/-- Every Rule's select in a new policy records `eff(R)`, for every profile. -/
theorem getSelectById_policyNew_rule (benchmark : XccdfBenchmark) (profile : XccdfProfile)
    {p : XccdfRule × List XccdfGroup} (hp : p ∈ benchmark.rulePaths) :
    (xccdfPolicyGetSelectById (xccdfPolicyNew benchmark profile) p.1.id).map (·.selected) =
      some (effectiveSelected profile p.1 p.2) := by
  rw [getSelectById_policyNew, findSelect_eq_head, selectsFor_policyNew benchmark profile hp]
  simp only [effectiveSelected, profileSelected, selectedOr, findSelect_eq_head]
  cases selectsFor profile.selects p.1.id <;> rfl

/-! ## The order of the select list -/

theorem setSelected_map_item (selects : List XccdfSelect) (itemId : String) (selected : Bool) :
    (setSelected selects itemId selected).map (·.item) = selects.map (·.item) := by
  induction selects with
  | nil => rfl
  | cons sel rest ih =>
    simp only [setSelected]
    split <;> simp_all

theorem findSelect_eq_none_iff {selects : List XccdfSelect} {itemId : String} :
    findSelect selects itemId = none ↔ itemId ∉ selects.map (·.item) := by
  simp [findSelect, List.find?_eq_none]

mutual
/-- Resolving keeps the selects in their order and appends the Rules below the item that have
no select yet, in document pre-order. -/
theorem resolveItem_map_item :
    ∀ (item : XccdfItem) (selects : List XccdfSelect) (b : Bool), item.ids.Nodup →
      (xccdfPolicyResolveItem selects b item).map (·.item) =
        selects.map (·.item) ++
          (item.rulePaths.map (·.1.id)).filter (· ∉ selects.map (·.item))
  | .rule r, selects, b, _ => by
    simp only [xccdfPolicyResolveItem, XccdfItem.rulePaths, List.map_cons, List.map_nil,
      List.filter_singleton]
    by_cases hmem : r.id ∈ selects.map (·.item)
    · obtain ⟨sel, hsel⟩ := Option.ne_none_iff_exists'.mp
        (mt findSelect_eq_none_iff.mp (not_not.mpr hmem))
      rw [hsel]
      simp [setSelected_map_item, hmem]
    · rw [findSelect_eq_none_iff.mpr hmem]
      simp [hmem]
  | .group g content, selects, b, hnodup => by
    simp only [xccdfPolicyResolveItem, XccdfItem.rulePaths, List.map_map]
    exact listResolve_map_item content selects _ (List.nodup_cons.mp hnodup).2
  | .value _, selects, _, _ => by simp [xccdfPolicyResolveItem, XccdfItem.rulePaths]

/-- `resolveItem_map_item` over a content list. -/
theorem listResolve_map_item :
    ∀ (items : List XccdfItem) (selects : List XccdfSelect) (b : Bool),
      (XccdfItem.listIds items).Nodup →
      (XccdfItem.xccdfPolicyResolveContent selects b items).map (·.item) =
        selects.map (·.item) ++
          ((XccdfItem.listRulePaths items).map (·.1.id)).filter (· ∉ selects.map (·.item))
  | [], selects, _, _ => by
    simp [XccdfItem.xccdfPolicyResolveContent, XccdfItem.listRulePaths]
  | item :: items, selects, b, hnodup => by
    simp only [XccdfItem.listIds, List.nodup_append] at hnodup
    obtain ⟨hitem, hitems, hdisj⟩ := hnodup
    simp only [XccdfItem.xccdfPolicyResolveContent, XccdfItem.listRulePaths, List.map_append,
      List.filter_append]
    rw [listResolve_map_item items _ b hitems, resolveItem_map_item item selects b hitem,
      List.append_assoc]
    congr 2
    apply List.filter_congr
    intro x hx
    obtain ⟨p, hp, rfl⟩ := List.mem_map.mp hx
    have hnot : p.1.id ∉ item.rulePaths.map (·.1.id) := fun h => by
      obtain ⟨q, hq, hqp⟩ := List.mem_map.mp h
      exact hdisj (hqp ▸ (XccdfItem.mem_ids_of_mem_rulePaths item q hq).1)
        (XccdfItem.mem_ids_of_mem_listRulePaths items p hp).1
    simp only [List.mem_append, not_or, decide_eq_decide]
    exact ⟨fun h => h.1, fun h => ⟨h, fun h' => hnot (List.mem_of_mem_filter h')⟩⟩
end

/-- The select list of a new policy: the profile's selects in their order, then the Rules
that no select names, in document pre-order. -/
theorem policyNew_map_item (benchmark : XccdfBenchmark) (profile : XccdfProfile) :
    (xccdfPolicyNew benchmark profile).selects.map (·.item) =
      profile.selects.map (·.item) ++
        (benchmark.rulePaths.map (·.1.id)).filter (· ∉ profile.selects.map (·.item)) :=
  listResolve_map_item benchmark.content profile.selects true benchmark.ids_nodup

/-! ## The select list of reachable policies -/

/-- Policies reached from `xccdf_policy_new benchmark profile` by `xccdf_policy_set_selected`. -/
inductive XccdfPolicy.Reachable (benchmark : XccdfBenchmark) (profile : XccdfProfile) :
    XccdfPolicy → Prop
  | new : XccdfPolicy.Reachable benchmark profile (xccdfPolicyNew benchmark profile)
  | setSelected {policy policy' : XccdfPolicy} (idref : String) :
      XccdfPolicy.Reachable benchmark profile policy →
      (xccdfPolicySetSelected policy idref).1 = some policy' →
      XccdfPolicy.Reachable benchmark profile policy'

/-- `xccdf_policy_set_selected` changes no select it keeps a state for. -/
theorem selects_setSelected {policy policy' : XccdfPolicy} {idref : String}
    (h : (xccdfPolicySetSelected policy idref).1 = some policy') : policy' = policy := by
  unfold xccdfPolicySetSelected at h
  split at h <;> simp_all

theorem resolvedEntries_length (itemId : String) (flag default : Bool)
    (entries : List XccdfSelect) :
    (resolvedEntries itemId flag default entries).length = max 1 entries.length := by
  cases entries <;> simp [resolvedEntries]

/-- In every reachable policy each Rule id has `max 1 k` selects, `k` the number of the
profile's selects for it: exactly one when the profile names the Rule at most once. -/
theorem length_selectsFor_of_reachable {benchmark : XccdfBenchmark} {profile : XccdfProfile}
    {policy : XccdfPolicy} (hreach : XccdfPolicy.Reachable benchmark profile policy)
    {p : XccdfRule × List XccdfGroup} (hp : p ∈ benchmark.rulePaths) :
    (selectsFor policy.selects p.1.id).length =
      max 1 (selectsFor profile.selects p.1.id).length := by
  induction hreach with
  | new => rw [selectsFor_policyNew benchmark profile hp, resolvedEntries_length]
  | setSelected _ _ h ih => rw [selects_setSelected h, ih]

/-- A selected Rule without platforms or checks. -/
def plainRule (id : String) : XccdfRule :=
  { id := id, weight := 1, selected := true, platforms := [], role := 1, severity := 1,
    checks := [] }

/-- A Benchmark holding the one Rule `r`. -/
def oneRuleBenchmark : XccdfBenchmark :=
  { id := "benchmark", platforms := [], content := [.rule (plainRule "r")], plainTexts := [],
    schemaVersion := "1.2", cpeList := none, cpeLangModel := none, profiles := [],
    ids_nodup := by decide }

/-- A profile that selects `r` twice, first on and then off. -/
def twiceSelectingProfile : XccdfProfile :=
  { emptyProfile with
    selects := [{ item := "r", selected := true }, { item := "r", selected := false }] }

theorem length_selectsFor_twiceSelecting :
    (plainRule "r", []) ∈ oneRuleBenchmark.rulePaths ∧
      (selectsFor (xccdfPolicyNew oneRuleBenchmark twiceSelectingProfile).selects
          (plainRule "r").id).length =
        max 1 (selectsFor twiceSelectingProfile.selects (plainRule "r").id).length :=
  have hp : (plainRule "r", []) ∈ oneRuleBenchmark.rulePaths := by
    simp [oneRuleBenchmark, XccdfBenchmark.rulePaths, XccdfItem.listRulePaths,
      XccdfItem.rulePaths]
  ⟨hp, length_selectsFor_of_reachable .new hp⟩

/-- A new policy whose profile selects a Rule twice keeps two selects for it. -/
theorem policyNew_selects_rule_twice :
    (selectsFor (xccdfPolicyNew oneRuleBenchmark twiceSelectingProfile).selects "r").length =
      2 := by
  decide

/-! ## Selects added after `xccdf_policy_new` -/

/-- Modelled from the macro `OSCAP_IGETINS`, which is not under src/:
`xccdf_policy_add_select(policy, select)` appends the select to `policy->selects` and leaves
`ht_selects` as it is. -/
def xccdfPolicyAddSelect (policy : XccdfPolicy) (sel : XccdfSelect) : XccdfPolicy :=
  { policy with selects := policy.selects ++ [sel] }

/-- Policies reached from `xccdf_policy_new benchmark profile` by `xccdf_policy_add_select`. -/
inductive XccdfPolicy.ReachableByAdd (benchmark : XccdfBenchmark) (profile : XccdfProfile) :
    XccdfPolicy → Prop
  | new : XccdfPolicy.ReachableByAdd benchmark profile (xccdfPolicyNew benchmark profile)
  | addSelect {policy : XccdfPolicy} (sel : XccdfSelect) :
      XccdfPolicy.ReachableByAdd benchmark profile policy →
      XccdfPolicy.ReachableByAdd benchmark profile (xccdfPolicyAddSelect policy sel)

/-- `ht_selects` indexes, first key wins, a prefix of the select list. -/
def XccdfPolicy.IndexesPrefix (policy : XccdfPolicy) : Prop :=
  ∃ indexed rest, policy.selects = indexed ++ rest ∧
    policy.htSelects = indexed.foldl oscapHtableAdd []

theorem indexesPrefix_policyNew (benchmark : XccdfBenchmark) (profile : XccdfProfile) :
    (xccdfPolicyNew benchmark profile).IndexesPrefix :=
  ⟨_, [], (List.append_nil _).symm, rfl⟩

theorem XccdfPolicy.IndexesPrefix.addSelect {policy : XccdfPolicy}
    (h : policy.IndexesPrefix) (sel : XccdfSelect) :
    (xccdfPolicyAddSelect policy sel).IndexesPrefix := by
  obtain ⟨indexed, rest, hselects, hht⟩ := h
  exact ⟨indexed, rest ++ [sel], by simp [xccdfPolicyAddSelect, hselects], hht⟩

/-- While the table indexes a prefix of the list, its answer for an id is the list's first
select of that id, so the lookup finds what the scan finds. -/
theorem XccdfPolicy.IndexesPrefix.getSelectById {policy : XccdfPolicy}
    (h : policy.IndexesPrefix) (itemId : String) :
    (∀ sel, oscapHtableGet policy.htSelects itemId = some sel →
        policy.selects.find? (·.item = itemId) = some sel) ∧
      xccdfPolicyGetSelectById policy itemId = policy.selects.find? (·.item = itemId) := by
  obtain ⟨indexed, rest, hselects, hht⟩ := h
  have hget : oscapHtableGet policy.htSelects itemId = findSelect indexed itemId := by
    rw [hht, oscapHtableGet_foldl]
    rfl
  refine ⟨fun sel hsel => by simp_all [findSelect], ?_⟩
  simp only [xccdfPolicyGetSelectById, hget, hselects, findSelect, List.find?_append]
  cases indexed.find? (·.item = itemId) <;> rfl

/-- In every policy reached from `xccdf_policy_new` by `xccdf_policy_add_select`, the
`ht_selects` fast path and the scan of the list agree: `xccdf_policy_get_select_by_id` finds
the first select of the id, or `NULL` when the list has none. -/
theorem getSelectById_of_reachableByAdd {benchmark : XccdfBenchmark} {profile : XccdfProfile}
    {policy : XccdfPolicy} (hreach : XccdfPolicy.ReachableByAdd benchmark profile policy)
    (itemId : String) :
    (∀ sel, oscapHtableGet policy.htSelects itemId = some sel →
        policy.selects.find? (·.item = itemId) = some sel) ∧
      xccdfPolicyGetSelectById policy itemId = policy.selects.find? (·.item = itemId) := by
  have hindexed : policy.IndexesPrefix := by
    induction hreach with
    | new => exact indexesPrefix_policyNew benchmark profile
    | addSelect sel _ ih => exact ih.addSelect sel
  exact hindexed.getSelectById itemId

/-- A new policy of `oneRuleBenchmark` with a select for `s` added afterwards: the table does
not index it. -/
def addedSelectPolicy : XccdfPolicy :=
  xccdfPolicyAddSelect (xccdfPolicyNew oneRuleBenchmark emptyProfile)
    { item := "s", selected := true }

theorem getSelectById_addedSelect :
    XccdfPolicy.ReachableByAdd oneRuleBenchmark emptyProfile addedSelectPolicy ∧
      ((∀ sel, oscapHtableGet addedSelectPolicy.htSelects "s" = some sel →
          addedSelectPolicy.selects.find? (·.item = "s") = some sel) ∧
        xccdfPolicyGetSelectById addedSelectPolicy "s" =
          addedSelectPolicy.selects.find? (·.item = "s")) :=
  have hreach : XccdfPolicy.ReachableByAdd oneRuleBenchmark emptyProfile addedSelectPolicy :=
    .addSelect _ .new
  ⟨hreach, getSelectById_of_reachableByAdd hreach "s"⟩

end Xccdf
