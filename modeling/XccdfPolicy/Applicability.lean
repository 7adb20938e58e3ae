import XccdfPolicy.Engine

/-!
# CPE applicability

`xccdf_policy_model_item_is_applicable` decides whether an item applies to the target: its
parent must apply, and, when it lists platforms, one of them must be accepted by the embedded
CPE language model, an external one, the embedded CPE dictionary or an external one, tried in
that order. The CPE library's matchers are outside `xccdf_policy.c` and are taken as given
predicates (`XccdfEnvironment`); the language-model matcher is handed
`_xccdf_policy_cpe_dict_cb`, which tests each CPE name against the embedded dictionary and the
model's external ones. An item is located with the Groups above it, so its chain of parents is
that path read upwards and then the Benchmark.

* `platformsApplicable_iff`: the four sources, tried one after the other, accept a platform
  list exactly when it is empty or some CPE source accepts one of its platforms.
* `itemIsApplicable_spec`: an item applies exactly when its parent, found in the Benchmark,
  applies and its own platforms are accepted; no item below a Group that does not apply
  applies.
* `cpeCheckCb_key_routes`: a check of a CPE dictionary is imported and cached under the
  directory of the dictionary's origin file when reached from a CPE-name platform, and under
  its bare href when reached through a CPE2 language model, since
  `_xccdf_policy_cpe_dict_cb` forwards the language model's `usr`.
* `cpeCheckCbRun_empty`: over any run of CPE checks, `cpe_oval_sessions` holds exactly the paths
  whose import succeeded, each once; a path with a session is never imported again.
-/

namespace Xccdf

variable {σ : Type} (model : XccdfPolicyModel σ) (env : XccdfEnvironment)

/-- `xccdf_policy_model_item_is_applicable_dict(model, dict, item)`: some platform is a
well-formed CPE name the dictionary accepts. -/
def xccdfPolicyModelItemIsApplicableDict (dict : CpeDictModel) (platforms : List String) :
    Bool :=
  platforms.any fun platform => env.cpeNameCheck platform && env.cpeNameApplicableDict platform dict

/-- `struct cpe_check_cb_usr` without the policy model it also carries: the CPE dictionary or
language model a CPE check was reached through. -/
structure CpeCheckCbUsr where
  dict : Option CpeDictModel
  langModel : Option CpeLangModel

/-- The `usr` of `xccdf_policy_model_item_is_applicable_dict(model, dict, item)`. -/
def dictRouteUsr (dict : CpeDictModel) : CpeCheckCbUsr :=
  { dict := some dict, langModel := none }

/-- The `usr` of `xccdf_policy_model_item_is_applicable_lang_model(model, lang_model, item)`. -/
def langModelRouteUsr (langModel : CpeLangModel) : CpeCheckCbUsr :=
  { dict := none, langModel := some langModel }

/-- `_xccdf_policy_cpe_dict_cb(name, usr)`: whether a CPE dictionary, the embedded one first,
then the external ones, accepts the CPE name, and the dictionaries it hands to
`cpe_name_applicable_dict`, up to the first that accepts, each with the `usr` it forwards. -/
def xccdfPolicyCpeDictCb (name : String) (usr : CpeCheckCbUsr) :
    Bool × List (CpeDictModel × CpeCheckCbUsr) :=
  let dicts := model.benchmark.cpeList.toList ++ model.cpeDicts
  (dicts.any (env.cpeNameApplicableDict name ·),
    (dicts.take (dicts.findIdx (env.cpeNameApplicableDict name ·) + 1)).map (·, usr))

/-- `xccdf_policy_model_item_is_applicable_lang_model(model, lang_model, item)`: some platform,
with one leading `#` removed, is a platform the language model accepts, the CPE names it
refers to being tested by `_xccdf_policy_cpe_dict_cb`. -/
def xccdfPolicyModelItemIsApplicableLangModel (langModel : CpeLangModel)
    (platforms : List String) : Bool :=
  platforms.any fun platform =>
    let platformShifted := if platform.startsWith "#" then platform.drop 1 else platform
    env.cpePlatformApplicableLangModel platformShifted langModel
      fun name => (xccdfPolicyCpeDictCb model env name (langModelRouteUsr langModel)).1

/-- The platform test of `xccdf_policy_model_item_is_applicable`: no platform, or a source that
accepts one, in the order embedded language model, external language models, embedded
dictionary, external dictionaries. -/
def platformsApplicable (platforms : List String) : Bool :=
  platforms.isEmpty ||
    (match model.benchmark.cpeLangModel with
      | some langModel => xccdfPolicyModelItemIsApplicableLangModel model env langModel platforms
      | none => false) ||
    model.cpeLangModels.any (xccdfPolicyModelItemIsApplicableLangModel model env · platforms) ||
    (match model.benchmark.cpeList with
      | some dict => xccdfPolicyModelItemIsApplicableDict env dict platforms
      | none => false) ||
    model.cpeDicts.any (xccdfPolicyModelItemIsApplicableDict env · platforms)

/-- `xccdf_policy_model_item_is_applicable(model, item)` on the platforms of the item and of
its parents, nearest first: the parent first, then the item's own platforms. -/
def xccdfPolicyModelItemIsApplicable : List (List String) → Bool
  | [] => true
  | platforms :: parents =>
    if xccdfPolicyModelItemIsApplicable parents then platformsApplicable model env platforms
    else false

/-- The platforms of an item with the Groups `path` above it, then of those Groups from the
nearest, then of the Benchmark. -/
def platformChain (benchmark : XccdfBenchmark) (platforms : List String)
    (path : List XccdfGroup) : List (List String) :=
  platforms :: (path.reverse.map (·.platforms) ++ [benchmark.platforms])

/-- `xccdf_item_get_platforms`. -/
def XccdfItem.platforms : XccdfItem → List String
  | .rule r => r.platforms
  | .group g _ => g.platforms
  | .value v => v.platforms

/-! ## Applicability along the tree -/

/-- Some CPE source accepts the platform reference `platform`: a CPE language model, embedded
or external, accepts it without one leading `#`, testing a CPE name against the CPE
dictionaries, embedded and external; or it is a well-formed CPE name that a CPE dictionary,
embedded or external, accepts. -/
def PlatformAccepted (platform : String) : Prop :=
  (∃ langModel ∈ model.benchmark.cpeLangModel.toList ++ model.cpeLangModels,
      env.cpePlatformApplicableLangModel
        (if platform.startsWith "#" then platform.drop 1 else platform) langModel
        (fun name => (model.benchmark.cpeList.toList ++ model.cpeDicts).any
          (env.cpeNameApplicableDict name ·)) = true) ∨
    (env.cpeNameCheck platform = true ∧
      ∃ dict ∈ model.benchmark.cpeList.toList ++ model.cpeDicts,
        env.cpeNameApplicableDict platform dict = true)

@[simp]
theorem xccdfPolicyModelItemIsApplicable_cons (platforms : List String)
    (parents : List (List String)) :
    xccdfPolicyModelItemIsApplicable model env (platforms :: parents) =
      (xccdfPolicyModelItemIsApplicable model env parents &&
        platformsApplicable model env platforms) := by
  simp only [xccdfPolicyModelItemIsApplicable]
  split <;> simp_all

theorem platformChain_append_singleton (benchmark : XccdfBenchmark) (platforms : List String)
    (path : List XccdfGroup) (g : XccdfGroup) :
    platformChain benchmark platforms (path ++ [g]) =
      platforms :: platformChain benchmark g.platforms path := by
  simp [platformChain]

/-- The platform test, source by source in the code, read platform by platform: no platform,
or one that some source accepts. -/
theorem platformsApplicable_iff (platforms : List String) :
    platformsApplicable model env platforms = true ↔
      platforms = [] ∨ ∃ platform ∈ platforms, PlatformAccepted model env platform := by
  have hlang : ∀ o : Option CpeLangModel, (match o with
      | some langModel => xccdfPolicyModelItemIsApplicableLangModel model env langModel platforms
      | none => false) =
      o.toList.any (xccdfPolicyModelItemIsApplicableLangModel model env · platforms) :=
    fun o => by cases o <;> simp
  have hdict : ∀ o : Option CpeDictModel, (match o with
      | some dict => xccdfPolicyModelItemIsApplicableDict env dict platforms
      | none => false) = o.toList.any (xccdfPolicyModelItemIsApplicableDict env · platforms) :=
    fun o => by cases o <;> simp
  unfold platformsApplicable PlatformAccepted
  rw [hlang, hdict]
  simp only [Bool.or_eq_true, List.isEmpty_iff, List.any_eq_true, List.mem_append,
    xccdfPolicyModelItemIsApplicableLangModel, xccdfPolicyCpeDictCb,
    xccdfPolicyModelItemIsApplicableDict, Bool.and_eq_true, or_assoc]
  constructor
  · rintro (h | ⟨lm, hlm, p, hp, h⟩ | ⟨lm, hlm, p, hp, h⟩ | ⟨d, hd, p, hp, hc, h⟩ |
      ⟨d, hd, p, hp, hc, h⟩)
    · exact .inl h
    · exact .inr ⟨p, hp, .inl ⟨lm, .inl hlm, h⟩⟩
    · exact .inr ⟨p, hp, .inl ⟨lm, .inr hlm, h⟩⟩
    · exact .inr ⟨p, hp, .inr ⟨hc, d, .inl hd, h⟩⟩
    · exact .inr ⟨p, hp, .inr ⟨hc, d, .inr hd, h⟩⟩
  · rintro (h | ⟨p, hp, ⟨lm, hlm | hlm, h⟩ | ⟨hc, d, hd | hd, h⟩⟩)
    · exact .inl h
    · exact .inr (.inl ⟨lm, hlm, p, hp, h⟩)
    · exact .inr (.inr (.inl ⟨lm, hlm, p, hp, h⟩))
    · exact .inr (.inr (.inr (.inl ⟨d, hd, p, hp, hc, h⟩)))
    · exact .inr (.inr (.inr (.inr ⟨d, hd, p, hp, hc, h⟩)))

/-- An item that applies lies below Groups that apply: the chain of an item applies only if
the chain of each Group above it does. -/
theorem isApplicable_platformChain_ancestor (benchmark : XccdfBenchmark)
    (pre : List XccdfGroup) (g : XccdfGroup) (post : List XccdfGroup) :
    ∀ platforms : List String,
      xccdfPolicyModelItemIsApplicable model env
          (platformChain benchmark platforms (pre ++ g :: post)) = true →
        xccdfPolicyModelItemIsApplicable model env (platformChain benchmark g.platforms pre) =
          true := by
  induction post using List.reverseRecOn with
  | nil =>
    intro platforms h
    rw [platformChain_append_singleton, xccdfPolicyModelItemIsApplicable_cons,
      Bool.and_eq_true] at h
    exact h.1
  | append_singleton post parent ih =>
    intro platforms h
    rw [← List.cons_append, ← List.append_assoc, platformChain_append_singleton,
      xccdfPolicyModelItemIsApplicable_cons, Bool.and_eq_true] at h
    exact ih parent.platforms h.1

/-- `xccdf_policy_model_item_is_applicable` on the items of the Benchmark: the Benchmark has no
parent; every other item applies exactly when its parent (the Benchmark, or the Group just
above it, found with the Groups above that) applies and it lists no platform or one some CPE
source accepts. Hence no item below a Group that does not apply applies. -/
theorem itemIsApplicable_spec {id : String} {item : XccdfItem} {path : List XccdfGroup}
    (h : model.benchmark.getItem id = some (item, path)) :
    let applicable := fun chain => xccdfPolicyModelItemIsApplicable model env chain = true
    let accepted := fun platforms : List String =>
      platforms = [] ∨ ∃ platform ∈ platforms, PlatformAccepted model env platform
    (applicable [model.benchmark.platforms] ↔ accepted model.benchmark.platforms) ∧
      (path = [] →
        (applicable (platformChain model.benchmark item.platforms path) ↔
          applicable [model.benchmark.platforms] ∧ accepted item.platforms)) ∧
      (∀ pre g, path = pre ++ [g] →
        ∃ content, model.benchmark.getItem g.id = some (.group g content, pre) ∧
          (applicable (platformChain model.benchmark item.platforms path) ↔
            applicable (platformChain model.benchmark g.platforms pre) ∧
              accepted item.platforms)) ∧
      (∀ pre g post, path = pre ++ g :: post →
        ∃ content, model.benchmark.getItem g.id = some (.group g content, pre) ∧
          (¬applicable (platformChain model.benchmark g.platforms pre) →
            ¬applicable (platformChain model.benchmark item.platforms path))) := by
  intro applicable accepted
  have hacc := platformsApplicable_iff model env
  refine ⟨?_, fun hnil => ?_, fun pre g hpath => ?_, fun pre g post hpath => ?_⟩
  · simp [applicable, accepted, hacc, xccdfPolicyModelItemIsApplicable]
  · subst hnil
    simp [applicable, accepted, hacc, platformChain]
  · obtain ⟨content, hg⟩ := model.benchmark.getItem_ancestor h pre g [] hpath
    refine ⟨content, hg, ?_⟩
    subst hpath
    simp [applicable, accepted, hacc, platformChain_append_singleton]
  · obtain ⟨content, hg⟩ := model.benchmark.getItem_ancestor h pre g post hpath
    refine ⟨content, hg, fun hnot happ => hnot ?_⟩
    subst hpath
    exact isApplicable_platformChain_ancestor model env _ pre g post _ happ

/-! ## The OVAL sessions of CPE checks -/

/-- Modelled from POSIX: `dirname(path)` is not under src/. The path without its last
component and the slashes before it: `.` when no slash precedes that component, `/` when only
slashes do (and for a path of slashes only). -/
def dirname (path : String) : String :=
  if path.toList.isEmpty then "."
  else if path.toList.all (· = '/') then "/"
  else
    let rest := (path.toList.reverse.dropWhile (· = '/')).dropWhile (· ≠ '/')
    if rest.isEmpty then "."
    else
      let rest := rest.dropWhile (· = '/')
      if rest.isEmpty then "/" else String.mk rest.reverse

example : dirname "/usr/share/cpe/dict.xml" = "/usr/share/cpe" := by decide
example : dirname "dict.xml" = "." := by decide

/-- The `prefixed_href` of `_xccdf_policy_cpe_check_cb(system, href, name, usr)`: the href under
the directory of the dictionary's origin file (`""` without one) when `usr` carries a
dictionary, the href as given when it carries a language model, `NULL` otherwise. -/
def xccdfPolicyCpeCheckCbHref (usr : CpeCheckCbUsr) (href : String) : Option String :=
  match usr.dict, usr.langModel with
  | some dict, _ => some (dirname (dict.originFile.getD "") ++ "/" ++ href)
  | none, some _ => some href
  | none, none => none

/-- The session bookkeeping of `_xccdf_policy_cpe_check_cb`: the session cached under
`prefixed_href` is used; without one, the OVAL definitions are imported from `prefixed_href`
and, when the import succeeds (`importOk`, outside src/), the session is cached under it. The
keys of `cpe_oval_sessions` afterwards, and the path imported, if any. -/
def xccdfPolicyCpeCheckCbSessions (importOk : String → Bool) (usr : CpeCheckCbUsr)
    (sessions : List String) (href : String) : List String × Option String :=
  match xccdfPolicyCpeCheckCbHref usr href with
  | none => (sessions, none)
  | some key =>
    if key ∈ sessions then (sessions, none)
    else if importOk key then (sessions ++ [key], some key)
    else (sessions, some key)

/-- Without a session cached under the check's `prefixed_href`, the check imports from it. -/
theorem cpeCheckCbSessions_of_href (importOk : String → Bool) {usr : CpeCheckCbUsr}
    {sessions : List String} {href key : String}
    (hkey : xccdfPolicyCpeCheckCbHref usr href = some key) (hnew : key ∉ sessions) :
    (xccdfPolicyCpeCheckCbSessions importOk usr sessions href).2 = some key := by
  unfold xccdfPolicyCpeCheckCbSessions
  rw [hkey]
  dsimp only
  rw [if_neg hnew]
  split <;> rfl

/-- A check of a CPE dictionary reached from a CPE-name platform of an item is keyed and
loaded under the directory of the dictionary's origin file; reached from a CPE2 language-model
platform through `_xccdf_policy_cpe_dict_cb`, which forwards the language model's `usr`, the
same check is keyed and loaded under its bare href. The two keys always differ. -/
theorem cpeCheckCb_key_routes (dict : CpeDictModel) (langModel : CpeLangModel) (name : String)
    (check : CpeCheck) (importOk : String → Bool) :
    let dictKey := dirname (dict.originFile.getD "") ++ "/" ++ check.href
    (∀ sessions, dictKey ∉ sessions →
      (xccdfPolicyCpeCheckCbSessions importOk (dictRouteUsr dict) sessions check.href).2 =
        some dictKey) ∧
      (∀ call ∈ (xccdfPolicyCpeDictCb model env name (langModelRouteUsr langModel)).2,
        ∀ sessions, check.href ∉ sessions →
          (xccdfPolicyCpeCheckCbSessions importOk call.2 sessions check.href).2 =
            some check.href) ∧
      dictKey ≠ check.href := by
  intro dictKey
  refine ⟨fun _ hnew => cpeCheckCbSessions_of_href importOk rfl hnew,
    fun call hcall _ hnew => ?_, fun heq => ?_⟩
  · obtain ⟨d, -, rfl⟩ := List.mem_map.mp hcall
    exact cpeCheckCbSessions_of_href importOk rfl hnew
  · have hlen := congrArg String.length heq
    have hslash : ("/" : String).length = 1 := rfl
    simp only [dictKey, String.length_append, hslash] at hlen
    omega

/-! ### The session cache over a run of CPE checks -/

/-- The keys of `cpe_oval_sessions` and the paths imported over a run of CPE checks, each
reached through its `usr` with its href, in call order. -/
def cpeCheckCbRun (importOk : String → Bool) (sessions : List String) :
    List (CpeCheckCbUsr × String) → List String × List String
  | [] => (sessions, [])
  | (usr, href) :: calls =>
    let step := xccdfPolicyCpeCheckCbSessions importOk usr sessions href
    let rest := cpeCheckCbRun importOk step.1 calls
    (rest.1, step.2.toList ++ rest.2)

/-- One CPE check imports only a path without a session, and caches it when the import
succeeds. -/
theorem cpeCheckCbSessions_step (importOk : String → Bool) (usr : CpeCheckCbUsr)
    (sessions : List String) (href : String) :
    (xccdfPolicyCpeCheckCbSessions importOk usr sessions href).1 =
        sessions ++ (xccdfPolicyCpeCheckCbSessions importOk usr sessions href).2.toList.filter
          importOk ∧
      ∀ path ∈ (xccdfPolicyCpeCheckCbSessions importOk usr sessions href).2, path ∉ sessions := by
  unfold xccdfPolicyCpeCheckCbSessions
  split
  · simp
  · split_ifs <;> simp_all

/-- `cpeCheckCbRun_empty` from any cache without a repeated key. -/
theorem cpeCheckCbRun_sessions (importOk : String → Bool) :
    ∀ (calls : List (CpeCheckCbUsr × String)) (sessions : List String), sessions.Nodup →
      (cpeCheckCbRun importOk sessions calls).1 =
          sessions ++ (cpeCheckCbRun importOk sessions calls).2.filter importOk ∧
        (cpeCheckCbRun importOk sessions calls).1.Nodup
  | [], sessions, h => by simp [cpeCheckCbRun, h]
  | (usr, href) :: calls, sessions, h => by
    obtain ⟨hstep, hnew⟩ := cpeCheckCbSessions_step importOk usr sessions href
    have hnodup : (xccdfPolicyCpeCheckCbSessions importOk usr sessions href).1.Nodup := by
      rw [hstep]
      rcases hpath : (xccdfPolicyCpeCheckCbSessions importOk usr sessions href).2 with _ | path
      · simpa using h
      · have hout := hnew path hpath
        by_cases hok : importOk path <;> simp [List.filter_cons, hok, h, hout, List.nodup_append]
    obtain ⟨hrun, hrunNodup⟩ := cpeCheckCbRun_sessions importOk calls _ hnodup
    refine ⟨?_, hrunNodup⟩
    dsimp only [cpeCheckCbRun]
    rw [hrun, hstep, List.filter_append, List.append_assoc]

/-- Over any run of CPE checks from the empty cache of `xccdf_policy_model_new`, through any
dictionaries and language models, `cpe_oval_sessions` holds exactly the paths whose import
succeeded, in import order and each once: a path with a session is never imported again, and
a failed import caches nothing, so the path is imported again at its next check. -/
theorem cpeCheckCbRun_empty (importOk : String → Bool) (calls : List (CpeCheckCbUsr × String)) :
    (cpeCheckCbRun importOk [] calls).1 = (cpeCheckCbRun importOk [] calls).2.filter importOk ∧
      (cpeCheckCbRun importOk [] calls).1.Nodup := by
  simpa using cpeCheckCbRun_sessions importOk calls [] List.nodup_nil

/-- A Benchmark holding a Group `g` of platform `#p` with the Rule `r` inside. -/
def groupedRuleBenchmark : XccdfBenchmark :=
  { id := "benchmark", platforms := [],
    content := [.group ⟨"g", 1, true, ["#p"]⟩ [.rule (plainRule "r")]], plainTexts := [],
    schemaVersion := "1.2", cpeList := none, cpeLangModel := none, profiles := [],
    ids_nodup := by decide }

/-- The model of `groupedRuleBenchmark` without callbacks or external CPE sources. -/
def groupedRuleModel : XccdfPolicyModel Unit :=
  { benchmark := groupedRuleBenchmark, policies := [], callbacks := [], cpeDicts := [],
    cpeLangModels := [] }

theorem itemIsApplicable_groupedRule :
    groupedRuleModel.benchmark.getItem "r" =
        some (.rule (plainRule "r"), [⟨"g", 1, true, ["#p"]⟩]) ∧
      let applicable := fun chain =>
        xccdfPolicyModelItemIsApplicable groupedRuleModel plainEnvironment chain = true
      let accepted := fun platforms : List String =>
        platforms = [] ∨ ∃ platform ∈ platforms,
          PlatformAccepted groupedRuleModel plainEnvironment platform
      let item : XccdfItem := .rule (plainRule "r")
      let path : List XccdfGroup := [⟨"g", 1, true, ["#p"]⟩]
      (applicable [groupedRuleModel.benchmark.platforms] ↔
          accepted groupedRuleModel.benchmark.platforms) ∧
        (path = [] →
          (applicable (platformChain groupedRuleModel.benchmark item.platforms path) ↔
            applicable [groupedRuleModel.benchmark.platforms] ∧ accepted item.platforms)) ∧
        (∀ pre g, path = pre ++ [g] →
          ∃ content, groupedRuleModel.benchmark.getItem g.id = some (.group g content, pre) ∧
            (applicable (platformChain groupedRuleModel.benchmark item.platforms path) ↔
              applicable (platformChain groupedRuleModel.benchmark g.platforms pre) ∧
                accepted item.platforms)) ∧
        (∀ pre g post, path = pre ++ g :: post →
          ∃ content, groupedRuleModel.benchmark.getItem g.id = some (.group g content, pre) ∧
            (¬applicable (platformChain groupedRuleModel.benchmark g.platforms pre) →
              ¬applicable (platformChain groupedRuleModel.benchmark item.platforms path))) :=
  have h : groupedRuleModel.benchmark.getItem "r" =
      some (.rule (plainRule "r"), [⟨"g", 1, true, ["#p"]⟩]) := rfl
  ⟨h, itemIsApplicable_spec groupedRuleModel plainEnvironment h⟩

end Xccdf
