import XccdfPolicy.Result
import Mathlib.Data.Rat.Defs
import Mathlib.Data.List.Nodup

/-!
# Benchmarks, checks, profiles and results

The data the policy layer of `xccdf_policy.c` reads and produces. The Benchmark is a tree:
Groups own an ordered content of Rules, Groups and Values (`XccdfItem`), and the Benchmark
root owns the top-level content. The source reaches items through parent pointers and the
Benchmark's id dictionary; here a located item carries the Groups above it
(`XccdfItem.find`), and the ids of a Benchmark are pairwise distinct by construction
(`XccdfBenchmark.ids_nodup`), as the XCCDF id dictionary requires.

Fields that no modelled function reads are left out: titles, descriptions, fixes, idents,
versions and timestamps.
-/

namespace Xccdf

/-! ## Checks -/

/-- `xccdf_check_content_ref`: the href of some checking-engine content and, optionally, the
name of one definition inside it. -/
structure XccdfCheckContentRef where
  href : String
  name : Option String
deriving DecidableEq, Repr

/-- `xccdf_check_export`: binds the benchmark Value `value` to the engine variable `name`. -/
structure XccdfCheckExport where
  value : String
  name : String
deriving DecidableEq, Repr

/-- `xccdf_check`. The source tells the two kinds apart by `xccdf_check_get_complex`: a
simple `<check>` names a checking system and lists content-refs and exports, a
`<complex-check>` combines its children with AND or OR. Both may be negated. -/
inductive XccdfCheck where
  | simple (system : String) (selector : Option String) (negate multicheck : Bool)
      (contentRefs : List XccdfCheckContentRef) (exports : List XccdfCheckExport)
  | complex (oper : XccdfBoolOperator) (negate : Bool) (children : List XccdfCheck)
deriving Repr

/-- `xccdf_check_get_negate`. -/
def XccdfCheck.negate : XccdfCheck → Bool
  | .simple _ _ negate _ _ _ => negate
  | .complex _ negate _ => negate

/-- `xccdf_check_get_complex`. -/
def XccdfCheck.isComplex : XccdfCheck → Bool
  | .simple .. => false
  | .complex .. => true

/-- `xccdf_check_get_system`: the checking system of a simple check; a complex check names
none. -/
def XccdfCheck.system : XccdfCheck → Option String
  | .simple system .. => some system
  | .complex .. => none

/-- Modelled from the spec: `xccdf_check_inject_content_ref(check, content, name)` is not
under src/. The spec has it pin `content` as the check's target: the clone's only content-ref
becomes `content`, named `name` when one is given. -/
def XccdfCheck.injectContentRef (check : XccdfCheck) (content : XccdfCheckContentRef)
    (name : Option String) : XccdfCheck :=
  match check with
  | .simple system selector negate multicheck _ exports =>
    .simple system selector negate multicheck
      [{ content with name := match name with | some n => some n | none => content.name }]
      exports
  | check => check

/-! ## Items -/

/-- `xccdf_value_instance`: one value of a Value under an optional selector, with the
default value `xccdf_value_instance_set_defval_string` writes. -/
structure XccdfValueInstance where
  selector : Option String
  value : String
  defval : Option String
deriving DecidableEq, Repr

/-- `xccdf_value`: its type and operator (the codes of `xccdf_value_type_t` and
`xccdf_operator_t`), platforms and instances. -/
structure XccdfValue where
  id : String
  type : Int
  oper : Int
  platforms : List String
  instances : List XccdfValueInstance
deriving DecidableEq, Repr

/-- Modelled from the spec: `xccdf_value_get_instance_by_selector` is not under src/; the
spec resolves "the instance by selector", here the first instance whose selector is
`selector` (absent matching absent). -/
def XccdfValue.getInstanceBySelector (value : XccdfValue) (selector : Option String) :
    Option XccdfValueInstance :=
  value.instances.find? (·.selector = selector)

/-- `xccdf_rule`: weight, default selection, platforms, role and severity codes, and its
checks and complex-checks in document order. -/
structure XccdfRule where
  id : String
  weight : ℚ
  selected : Bool
  platforms : List String
  role : Int
  severity : Int
  checks : List XccdfCheck
deriving Repr

/-- `xccdf_group`, without its content. -/
structure XccdfGroup where
  id : String
  weight : ℚ
  selected : Bool
  platforms : List String
deriving DecidableEq, Repr

/-- An item of the Benchmark tree (`xccdf_item` of type Rule, Group or Value). -/
inductive XccdfItem where
  | rule (rule : XccdfRule)
  | group (group : XccdfGroup) (content : List XccdfItem)
  | value (value : XccdfValue)
deriving Repr

/-- `xccdf_item_get_id`. -/
def XccdfItem.id : XccdfItem → String
  | .rule r => r.id
  | .group g _ => g.id
  | .value v => v.id

mutual
/-- The ids of an item and of everything below it, in document pre-order. -/
def XccdfItem.ids : XccdfItem → List String
  | .rule r => [r.id]
  | .group g content => g.id :: XccdfItem.listIds content
  | .value v => [v.id]

/-- The ids of a content list and everything below it, in document pre-order. -/
def XccdfItem.listIds : List XccdfItem → List String
  | [] => []
  | item :: items => item.ids ++ XccdfItem.listIds items
end

mutual
/-- The Rules at or below an item in document pre-order, each with the Groups on its path
below the item (outermost first). -/
def XccdfItem.rulePaths : XccdfItem → List (XccdfRule × List XccdfGroup)
  | .rule r => [(r, [])]
  | .group g content => (XccdfItem.listRulePaths content).map fun p => (p.1, g :: p.2)
  | .value _ => []

/-- `XccdfItem.rulePaths` over a content list. -/
def XccdfItem.listRulePaths : List XccdfItem → List (XccdfRule × List XccdfGroup)
  | [] => []
  | item :: items => item.rulePaths ++ XccdfItem.listRulePaths items
end

mutual
/-- The item with id `id` at or below an item, with the Groups on its path below the item
(outermost first), searched in document pre-order. -/
def XccdfItem.find (id : String) : XccdfItem → Option (XccdfItem × List XccdfGroup)
  | .rule r => if r.id = id then some (.rule r, []) else none
  | .group g content =>
    if g.id = id then some (.group g content, [])
    else (XccdfItem.listFind id content).map fun p => (p.1, g :: p.2)
  | .value v => if v.id = id then some (.value v, []) else none

/-- `XccdfItem.find` over a content list. -/
def XccdfItem.listFind (id : String) : List XccdfItem → Option (XccdfItem × List XccdfGroup)
  | [] => none
  | item :: items =>
    match item.find id with
    | some found => some found
    | none => XccdfItem.listFind id items
end

/-! ## Profiles -/

/-- `xccdf_select`: selects or deselects the item `item`. -/
structure XccdfSelect where
  item : String
  selected : Bool
deriving DecidableEq, Repr

/-- `xccdf_setvalue`: sets the Value `item` to the literal `value`. -/
structure XccdfSetvalue where
  item : String
  value : String
deriving DecidableEq, Repr

/-- `xccdf_refine_value`: refines the Value `item` with a selector and an operator code. The
source reads the operator through `isnan` on an integer enumerator, which is never true, so
the code is always taken as given. -/
structure XccdfRefineValue where
  item : String
  selector : Option String
  oper : Int
deriving DecidableEq, Repr

/-- `xccdf_refine_rule`: refines the Rule or Group `item`; `weight` is `none` unless
`xccdf_refine_rule_weight_defined`. -/
structure XccdfRefineRule where
  item : String
  selector : Option String
  weight : Option ℚ
  role : Int
  severity : Int
deriving DecidableEq, Repr

/-- `xccdf_profile`: its id (none for the policy model's default profile) and its selects,
setvalues, refine-values and refine-rules in document order. -/
structure XccdfProfile where
  id : Option String
  selects : List XccdfSelect
  setvalues : List XccdfSetvalue
  refineValues : List XccdfRefineValue
  refineRules : List XccdfRefineRule
deriving DecidableEq, Repr

/-- The profile of a policy built without one (`profile == NULL`): no select, setvalue or
refinement, and the id `default-profile` in TestResult ids. -/
def emptyProfile : XccdfProfile :=
  { id := none, selects := [], setvalues := [], refineValues := [], refineRules := [] }

/-! ## CPE content -/

/-- A `check` of a CPE dictionary item: checking system, content href and definition name. -/
structure CpeCheck where
  system : String
  href : String
  name : String
deriving DecidableEq, Repr

/-- A `cpe-item` of a CPE dictionary: a CPE name and the checks that decide it. -/
structure CpeItem where
  name : String
  checks : List CpeCheck
deriving DecidableEq, Repr

/-- `cpe_dict_model`: the file it was loaded from and its items. -/
structure CpeDictModel where
  originFile : Option String
  items : List CpeItem
deriving DecidableEq, Repr

/-- `cpe_lang_model`: the ids of its platforms. -/
structure CpeLangModel where
  platforms : List String
deriving DecidableEq, Repr

/-! ## The Benchmark -/

/-- `xccdf_benchmark`: the root item with its content, plain-texts, schema version, embedded
CPE dictionary and language model, and profiles. Item ids are pairwise distinct. -/
structure XccdfBenchmark where
  id : String
  platforms : List String
  content : List XccdfItem
  plainTexts : List (String × String)
  schemaVersion : String
  cpeList : Option CpeDictModel
  cpeLangModel : Option CpeLangModel
  profiles : List XccdfProfile
  ids_nodup : (XccdfItem.listIds content).Nodup

/-- `xccdf_benchmark_get_item`: the item with the given id and the Groups above it. -/
def XccdfBenchmark.getItem (benchmark : XccdfBenchmark) (id : String) :
    Option (XccdfItem × List XccdfGroup) :=
  XccdfItem.listFind id benchmark.content

/-- The Rules of the Benchmark in document pre-order, each with the Groups above it. -/
def XccdfBenchmark.rulePaths (benchmark : XccdfBenchmark) : List (XccdfRule × List XccdfGroup) :=
  XccdfItem.listRulePaths benchmark.content

/-! ## Locating items -/

mutual
/-- Each Rule id below an item, and each Group id on its path, is an id of the item. -/
theorem XccdfItem.mem_ids_of_mem_rulePaths :
    ∀ (item : XccdfItem) (p : XccdfRule × List XccdfGroup), p ∈ item.rulePaths →
      p.1.id ∈ item.ids ∧ ∀ g ∈ p.2, g.id ∈ item.ids
  | .rule r, p, hp => by
    obtain rfl : p = (r, []) := by simpa [XccdfItem.rulePaths] using hp
    simp [XccdfItem.ids]
  | .group g content, p, hp => by
    obtain ⟨q, hq, rfl⟩ : ∃ q ∈ XccdfItem.listRulePaths content, (q.1, g :: q.2) = p := by
      simpa [XccdfItem.rulePaths] using hp
    have ih := XccdfItem.mem_ids_of_mem_listRulePaths content q hq
    refine ⟨List.mem_cons_of_mem _ ih.1, fun g' hg' => ?_⟩
    rcases List.mem_cons.mp hg' with rfl | hg'
    · exact List.mem_cons_self _ _
    · exact List.mem_cons_of_mem _ (ih.2 g' hg')
  | .value _, p, hp => by simp [XccdfItem.rulePaths] at hp

/-- `XccdfItem.mem_ids_of_mem_rulePaths` over a content list. -/
theorem XccdfItem.mem_ids_of_mem_listRulePaths :
    ∀ (items : List XccdfItem) (p : XccdfRule × List XccdfGroup),
      p ∈ XccdfItem.listRulePaths items →
      p.1.id ∈ XccdfItem.listIds items ∧ ∀ g ∈ p.2, g.id ∈ XccdfItem.listIds items
  | [], p, hp => by simp [XccdfItem.listRulePaths] at hp
  | item :: items, p, hp => by
    simp only [XccdfItem.listRulePaths, List.mem_append] at hp
    simp only [XccdfItem.listIds, List.mem_append]
    rcases hp with hp | hp
    · have ih := XccdfItem.mem_ids_of_mem_rulePaths item p hp
      exact ⟨Or.inl ih.1, fun g hg => Or.inl (ih.2 g hg)⟩
    · have ih := XccdfItem.mem_ids_of_mem_listRulePaths items p hp
      exact ⟨Or.inr ih.1, fun g hg => Or.inr (ih.2 g hg)⟩
end

mutual
/-- The item `find` returns has the id it was asked for. -/
theorem XccdfItem.find_id (id : String) :
    ∀ (item : XccdfItem) {found : XccdfItem} {path : List XccdfGroup},
      item.find id = some (found, path) → found.id = id
  | .rule r, _, _, h => by
    simp only [XccdfItem.find] at h
    split at h
    · obtain ⟨rfl, -⟩ := Prod.mk.inj (Option.some.inj h); assumption
    · cases h
  | .group g content, _, _, h => by
    simp only [XccdfItem.find] at h
    split at h
    · obtain ⟨rfl, -⟩ := Prod.mk.inj (Option.some.inj h); assumption
    · obtain ⟨q, hq, hfound⟩ := Option.map_eq_some'.mp h
      obtain rfl := (Prod.mk.inj hfound).1.symm
      exact XccdfItem.listFind_id id content hq
  | .value v, _, _, h => by
    simp only [XccdfItem.find] at h
    split at h
    · obtain ⟨rfl, -⟩ := Prod.mk.inj (Option.some.inj h); assumption
    · cases h

/-- `XccdfItem.find_id` over a content list. -/
theorem XccdfItem.listFind_id (id : String) :
    ∀ (items : List XccdfItem) {found : XccdfItem} {path : List XccdfGroup},
      XccdfItem.listFind id items = some (found, path) → found.id = id
  | [], _, _, h => by simp [XccdfItem.listFind] at h
  | item :: items, _, _, h => by
    simp only [XccdfItem.listFind] at h
    split at h
    · rename_i found' hfound
      obtain rfl := Option.some.inj h
      exact XccdfItem.find_id id item hfound
    · exact XccdfItem.listFind_id id items h
end

mutual
/-- An id that is not at or below an item is not found there. -/
theorem XccdfItem.find_eq_none (id : String) :
    ∀ item : XccdfItem, id ∉ item.ids → item.find id = none
  | .rule r, h => by simp_all [XccdfItem.find, XccdfItem.ids, eq_comm]
  | .group g content, h => by
    simp only [XccdfItem.ids, List.mem_cons, not_or] at h
    simp [XccdfItem.find, Ne.symm h.1, XccdfItem.listFind_eq_none id content h.2]
  | .value v, h => by simp_all [XccdfItem.find, XccdfItem.ids, eq_comm]

/-- `XccdfItem.find_eq_none` over a content list. -/
theorem XccdfItem.listFind_eq_none (id : String) :
    ∀ items : List XccdfItem, id ∉ XccdfItem.listIds items → XccdfItem.listFind id items = none
  | [], _ => rfl
  | item :: items, h => by
    simp only [XccdfItem.listIds, List.mem_append, not_or] at h
    simp [XccdfItem.listFind, XccdfItem.find_eq_none id item h.1,
      XccdfItem.listFind_eq_none id items h.2]
end

mutual
/-- With unique ids, each Rule is found by its id, with the Groups on its path. -/
theorem XccdfItem.find_of_mem_rulePaths :
    ∀ item : XccdfItem, item.ids.Nodup → ∀ p ∈ item.rulePaths,
      item.find p.1.id = some (.rule p.1, p.2)
  | .rule r, _, p, hp => by
    obtain rfl : p = (r, []) := by simpa [XccdfItem.rulePaths] using hp
    simp [XccdfItem.find]
  | .group g content, hnodup, p, hp => by
    obtain ⟨q, hq, rfl⟩ : ∃ q ∈ XccdfItem.listRulePaths content, (q.1, g :: q.2) = p := by
      simpa [XccdfItem.rulePaths] using hp
    have hnodup := List.nodup_cons.mp hnodup
    have hne : g.id ≠ q.1.id := fun h =>
      hnodup.1 (h ▸ (XccdfItem.mem_ids_of_mem_listRulePaths content q hq).1)
    simp [XccdfItem.find, hne, XccdfItem.listFind_of_mem_rulePaths content hnodup.2 q hq]
  | .value _, _, p, hp => by simp [XccdfItem.rulePaths] at hp

/-- `XccdfItem.find_of_mem_rulePaths` over a content list. -/
theorem XccdfItem.listFind_of_mem_rulePaths :
    ∀ items : List XccdfItem, (XccdfItem.listIds items).Nodup →
      ∀ p ∈ XccdfItem.listRulePaths items,
        XccdfItem.listFind p.1.id items = some (.rule p.1, p.2)
  | [], _, p, hp => by simp [XccdfItem.listRulePaths] at hp
  | item :: items, hnodup, p, hp => by
    simp only [XccdfItem.listIds, List.nodup_append] at hnodup
    simp only [XccdfItem.listRulePaths, List.mem_append] at hp
    rcases hp with hp | hp
    · simp [XccdfItem.listFind, XccdfItem.find_of_mem_rulePaths item hnodup.1 p hp]
    · have hnot : p.1.id ∉ item.ids := fun h =>
        hnodup.2.2 h (XccdfItem.mem_ids_of_mem_listRulePaths items p hp).1
      simp [XccdfItem.listFind, XccdfItem.find_eq_none _ item hnot,
        XccdfItem.listFind_of_mem_rulePaths items hnodup.2.1 p hp]
end

/-- An id found below an item is one of its ids. -/
theorem XccdfItem.mem_listIds_of_listFind {id : String} {items : List XccdfItem}
    {found : XccdfItem × List XccdfGroup} (h : XccdfItem.listFind id items = some found) :
    id ∈ XccdfItem.listIds items := by
  by_contra hnot
  rw [XccdfItem.listFind_eq_none id items hnot] at h
  cases h

mutual
/-- With unique ids, the Group just above a found item is found itself, with the Groups above
it. -/
theorem XccdfItem.find_parent :
    ∀ item : XccdfItem, item.ids.Nodup → ∀ {id : String} {found : XccdfItem}
      {pre : List XccdfGroup} {g : XccdfGroup}, item.find id = some (found, pre ++ [g]) →
      ∃ content, item.find g.id = some (.group g content, pre)
  | .rule r, _, id, _, pre, g, h => by
    simp only [XccdfItem.find] at h
    split at h <;> simp_all
  | .group g' content, hnodup, id, found, pre, g, h => by
    have hnodup := List.nodup_cons.mp hnodup
    simp only [XccdfItem.find] at h
    split at h
    · simp_all
    · obtain ⟨⟨found', path⟩, hq, hfound⟩ := Option.map_eq_some'.mp h
      obtain ⟨rfl, hpath⟩ := Prod.mk.inj hfound
      cases pre with
      | nil =>
        obtain ⟨rfl, -⟩ := List.cons_eq_cons.mp hpath
        exact ⟨content, by simp [XccdfItem.find]⟩
      | cons x pre =>
        obtain ⟨rfl, rfl⟩ := List.cons_eq_cons.mp hpath
        obtain ⟨c, hc⟩ := XccdfItem.listFind_parent content hnodup.2 hq
        have hne : g'.id ≠ g.id := fun heq =>
          hnodup.1 (heq ▸ XccdfItem.mem_listIds_of_listFind hc)
        exact ⟨c, by simp [XccdfItem.find, hne, hc]⟩
  | .value v, _, id, _, pre, g, h => by
    simp only [XccdfItem.find] at h
    split at h <;> simp_all

/-- `XccdfItem.find_parent` over a content list. -/
theorem XccdfItem.listFind_parent :
    ∀ items : List XccdfItem, (XccdfItem.listIds items).Nodup → ∀ {id : String}
      {found : XccdfItem} {pre : List XccdfGroup} {g : XccdfGroup},
      XccdfItem.listFind id items = some (found, pre ++ [g]) →
      ∃ content, XccdfItem.listFind g.id items = some (.group g content, pre)
  | [], _, _, _, _, _, h => by simp [XccdfItem.listFind] at h
  | item :: items, hnodup, id, found, pre, g, h => by
    simp only [XccdfItem.listIds, List.nodup_append] at hnodup
    simp only [XccdfItem.listFind] at h
    split at h
    · rename_i found' hfound
      obtain ⟨c, hc⟩ := XccdfItem.find_parent item hnodup.1 (hfound.trans h)
      exact ⟨c, by simp [XccdfItem.listFind, hc]⟩
    · obtain ⟨c, hc⟩ := XccdfItem.listFind_parent items hnodup.2.1 h
      have hnot : g.id ∉ item.ids := fun hmem =>
        hnodup.2.2 hmem (XccdfItem.mem_listIds_of_listFind hc)
      exact ⟨c, by simp [XccdfItem.listFind, XccdfItem.find_eq_none _ item hnot, hc]⟩
end

mutual
/-- Each Rule below a found item is a Rule below the item searched, with the Groups above the
found item on its path. -/
theorem XccdfItem.rulePaths_of_find (id : String) :
    ∀ (item : XccdfItem) {found : XccdfItem} {path : List XccdfGroup},
      item.find id = some (found, path) →
      ∀ p ∈ found.rulePaths, (p.1, path ++ p.2) ∈ item.rulePaths
  | .rule r, _, _, h, p, hp => by
    simp only [XccdfItem.find] at h
    split at h <;> cases h
    simpa using hp
  | .group g content, _, _, h, p, hp => by
    simp only [XccdfItem.find] at h
    split at h
    · cases h
      simpa using hp
    · obtain ⟨⟨found', path'⟩, hq, hfound⟩ := Option.map_eq_some'.mp h
      cases hfound
      exact List.mem_map_of_mem (fun q => (q.1, g :: q.2))
        (XccdfItem.rulePaths_of_listFind id content hq p hp)
  | .value v, _, _, h, p, hp => by
    simp only [XccdfItem.find] at h
    split at h <;> cases h
    simpa using hp

/-- `XccdfItem.rulePaths_of_find` over a content list. -/
theorem XccdfItem.rulePaths_of_listFind (id : String) :
    ∀ (items : List XccdfItem) {found : XccdfItem} {path : List XccdfGroup},
      XccdfItem.listFind id items = some (found, path) →
      ∀ p ∈ found.rulePaths, (p.1, path ++ p.2) ∈ XccdfItem.listRulePaths items
  | [], _, _, h, _, _ => by simp [XccdfItem.listFind] at h
  | item :: items, _, _, h, p, hp => by
    simp only [XccdfItem.listFind] at h
    simp only [XccdfItem.listRulePaths, List.mem_append]
    split at h
    · rename_i hfound
      exact .inl (XccdfItem.rulePaths_of_find id item (hfound.trans h) p hp)
    · exact .inr (XccdfItem.rulePaths_of_listFind id items h p hp)
end

/-- `xccdf_benchmark_get_item` finds an item of the id it is asked for. -/
theorem XccdfBenchmark.getItem_id (benchmark : XccdfBenchmark) {id : String}
    {found : XccdfItem} {path : List XccdfGroup} (h : benchmark.getItem id = some (found, path)) :
    found.id = id :=
  XccdfItem.listFind_id id benchmark.content h

/-- Each Group above an item the Benchmark finds is found itself, with the Groups above it. -/
theorem XccdfBenchmark.getItem_ancestor (benchmark : XccdfBenchmark) {id : String}
    {found : XccdfItem} {path : List XccdfGroup} (h : benchmark.getItem id = some (found, path))
    (pre : List XccdfGroup) (g : XccdfGroup) (post : List XccdfGroup)
    (hpath : path = pre ++ g :: post) :
    ∃ content, benchmark.getItem g.id = some (.group g content, pre) := by
  induction post using List.reverseRecOn generalizing id found path with
  | nil =>
    subst hpath
    exact XccdfItem.listFind_parent benchmark.content benchmark.ids_nodup h
  | append_singleton post parent ih =>
    subst hpath
    have h' : XccdfItem.listFind id benchmark.content =
        some (found, (pre ++ g :: post) ++ [parent]) := by simpa using h
    obtain ⟨c, hc⟩ := XccdfItem.listFind_parent benchmark.content benchmark.ids_nodup h'
    exact ih hc rfl

/-- `xccdf_benchmark_get_item` finds each Rule of the Benchmark, with the Groups above it. -/
theorem XccdfBenchmark.getItem_of_mem_rulePaths (benchmark : XccdfBenchmark)
    {p : XccdfRule × List XccdfGroup} (hp : p ∈ benchmark.rulePaths) :
    benchmark.getItem p.1.id = some (.rule p.1, p.2) :=
  XccdfItem.listFind_of_mem_rulePaths benchmark.content benchmark.ids_nodup p hp

/-- Each Rule below an item the Benchmark finds is a Rule of the Benchmark, below the Groups
above the item. -/
theorem XccdfBenchmark.rulePaths_of_getItem (benchmark : XccdfBenchmark) {id : String}
    {found : XccdfItem} {path : List XccdfGroup} (h : benchmark.getItem id = some (found, path)) :
    ∀ p ∈ found.rulePaths, (p.1, path ++ p.2) ∈ benchmark.rulePaths :=
  XccdfItem.rulePaths_of_listFind id benchmark.content h

/-- The id names a Rule of the Benchmark: the selects `xccdf_policy_evaluate` acts on. -/
def XccdfBenchmark.isRule (benchmark : XccdfBenchmark) (id : String) : Bool :=
  match benchmark.getItem id with
  | some (.rule _, _) => true
  | _ => false

theorem XccdfBenchmark.isRule_of_mem_rulePaths (benchmark : XccdfBenchmark)
    {p : XccdfRule × List XccdfGroup} (hp : p ∈ benchmark.rulePaths) :
    benchmark.isRule p.1.id = true := by
  simp [XccdfBenchmark.isRule, benchmark.getItem_of_mem_rulePaths hp]

/-! ## Results -/

/-- `xccdf_rule_result` as `_xccdf_rule_result_new_from_rule` fills it: the Rule's id,
weight, severity and role, the result code, the evaluated check clone and a message. -/
structure XccdfRuleResult where
  idref : String
  result : Int
  weight : ℚ
  severity : Int
  role : Int
  check : Option XccdfCheck
  message : Option String
deriving Repr

/-- `_xccdf_rule_result_new_from_rule(rule, check, eval_result, message)`. -/
def xccdfRuleResultNewFromRule (rule : XccdfRule) (check : Option XccdfCheck)
    (evalResult : Int) (message : Option String) : XccdfRuleResult :=
  { idref := rule.id, result := evalResult, weight := rule.weight, severity := rule.severity,
    role := rule.role, check := check, message := message }

/-- `xccdf_result`, a TestResult: its id and its rule results in the order they were added. -/
structure XccdfResult where
  id : String
  ruleResults : List XccdfRuleResult
deriving Repr

end Xccdf
