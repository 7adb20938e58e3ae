import XccdfPolicy.Benchmark

/-!
# Systems and files referenced by an item

`xccdf_item_get_systems_and_files` lists the (checking system, href) pairs of the
check-content-refs of the Rules at or below an item, and `xccdf_item_get_files` their hrefs.
Both walk the items, and inside each Rule its checks and the children of its complex checks,
and merge each sub-list into the running list: an entry that `oscap_list_contains` already
finds is not added again. The two functions, and their helpers on checks, are one walk here
(`itemGetEntries`, `checkGetEntries`) applied to each function's entry, comparator and list
iterator.

A Value is not walked: both functions return `NULL` for it, and the loop over a Group's
content hands a child's `NULL` list to the list iterator, without the check that
`xccdf_item_get_default_score` makes on a child's `NULL` score. The list iterators are not
under src/; the model ends the call there with an error naming the iterator.

* `mergeAbsent_map_mergeAbsent`: merging a de-duplicated list, mapped, is merging the list,
  mapped. Merging the de-duplicated sub-lists of every level is thus one global
  de-duplication (`itemGetEntries_of_valueFree`).
* `getSystemsAndFiles_eraseDups`: for every Rule, Group or Benchmark without a Value below
  it, `xccdf_item_get_systems_and_files` is the (system, href) pairs of all its checks with
  every repeated pair after its first occurrence removed, and `xccdf_item_get_files` the hrefs
  of that list, de-duplicated the same way.
* `getSystemsAndFiles_of_not_valueFree`: below a Group that holds a Value, both end at the
  iterator of a `NULL` list.
-/

namespace Xccdf

/-! ## Entries and the merge loop -/

/-- `struct oscap_file_entry`: a checking system and the href of a file it reads. -/
structure OscapFileEntry where
  systemName : String
  file : String
deriving DecidableEq, Repr

/-- The entry `xccdf_check_get_systems_and_files` makes for a content-ref of a simple check of
system `system`. -/
def fileEntry (system : String) (ref : XccdfCheckContentRef) : OscapFileEntry :=
  { systemName := system, file := ref.href }

/-- `xccdf_file_entry_cmp_func`: both names equal under `oscap_strcmp`. -/
def xccdfFileEntryCmpFunc (entry1 entry2 : OscapFileEntry) : Bool :=
  entry1.systemName == entry2.systemName && entry1.file == entry2.file

/-- `xccdf_cmp_func`: `oscap_strcmp` finds the strings equal. -/
def xccdfCmpFunc (s1 s2 : String) : Bool :=
  s1 == s2

/-- `oscap_list_contains(list, entry, cmp)` is not under src/: some element of the list
compares equal to `entry`. -/
def oscapListContains {α : Type} (cmp : α → α → Bool) (list : List α) (entry : α) : Bool :=
  list.any (cmp · entry)

/-- The merge loop of the four functions: each entry that `oscap_list_contains` does not find
in the running list is appended to it (`oscap_list_add`). -/
def mergeAbsent {α : Type} (cmp : α → α → Bool) (list entries : List α) : List α :=
  entries.foldl
    (fun list entry => if oscapListContains cmp list entry then list else list ++ [entry]) list

theorem xccdfFileEntryCmpFunc_iff (entry1 entry2 : OscapFileEntry) :
    xccdfFileEntryCmpFunc entry1 entry2 = true ↔ entry1 = entry2 := by
  cases entry1
  cases entry2
  simp [xccdfFileEntryCmpFunc]

theorem xccdfCmpFunc_iff (s1 s2 : String) : xccdfCmpFunc s1 s2 = true ↔ s1 = s2 := by
  simp [xccdfCmpFunc]

section Merge

variable {α β : Type}

@[simp]
theorem mergeAbsent_nil (cmp : α → α → Bool) (list : List α) : mergeAbsent cmp list [] = list :=
  rfl

theorem mergeAbsent_cons (cmp : α → α → Bool) (list : List α) (entry : α) (entries : List α) :
    mergeAbsent cmp list (entry :: entries) =
      mergeAbsent cmp (if oscapListContains cmp list entry then list else list ++ [entry])
        entries :=
  rfl

theorem mergeAbsent_append (cmp : α → α → Bool) (list xs ys : List α) :
    mergeAbsent cmp list (xs ++ ys) = mergeAbsent cmp (mergeAbsent cmp list xs) ys :=
  List.foldl_append _ _ _ _

variable {cmp : α → α → Bool} (hcmp : ∀ a b, cmp a b = true ↔ a = b)
include hcmp

theorem oscapListContains_iff {list : List α} {entry : α} :
    oscapListContains cmp list entry = true ↔ entry ∈ list := by
  simp [oscapListContains, hcmp]

theorem mem_mergeAbsent {list entries : List α} {x : α} :
    x ∈ mergeAbsent cmp list entries ↔ x ∈ list ∨ x ∈ entries := by
  induction entries generalizing list with
  | nil => simp
  | cons entry entries ih =>
    rw [mergeAbsent_cons, ih]
    split_ifs with h
    · have hentry := (oscapListContains_iff hcmp).1 h
      by_cases hx : x = entry
      · subst hx
        simp [hentry]
      · simp [hx]
    · simp [or_assoc]

/-- Merging a de-duplicated list, mapped by `f`, merges the list mapped by `f`. -/
theorem mergeAbsent_map_mergeAbsent {cmpβ : β → β → Bool}
    (hcmpβ : ∀ a b, cmpβ a b = true ↔ a = b) (f : α → β) (acc : List β) (list entries : List α) :
    mergeAbsent cmpβ acc ((mergeAbsent cmp list entries).map f) =
      mergeAbsent cmpβ (mergeAbsent cmpβ acc (list.map f)) (entries.map f) := by
  induction entries generalizing list with
  | nil => rfl
  | cons entry entries ih =>
    rw [mergeAbsent_cons, ih, List.map_cons, mergeAbsent_cons]
    congr 1
    by_cases hlist : oscapListContains cmp list entry = true
    · have hacc : oscapListContains cmpβ (mergeAbsent cmpβ acc (list.map f)) (f entry) = true := by
        rw [oscapListContains_iff hcmpβ, mem_mergeAbsent hcmpβ]
        exact .inr (List.mem_map_of_mem f ((oscapListContains_iff hcmp).1 hlist))
      simp only [hlist, hacc, if_true]
    · simp only [hlist, Bool.false_eq_true, if_false, List.map_append, mergeAbsent_append]
      rfl

/-- Merging a de-duplicated list merges the list. -/
theorem mergeAbsent_mergeAbsent_nil (acc entries : List α) :
    mergeAbsent cmp acc (mergeAbsent cmp [] entries) = mergeAbsent cmp acc entries := by
  simpa using mergeAbsent_map_mergeAbsent hcmp hcmp id acc [] entries

/-- The loop of `List.eraseDups` is the merge loop from the reverse of its accumulator. -/
theorem eraseDups_loop_eq_mergeAbsent [DecidableEq α] (entries found : List α) :
    List.eraseDups.loop entries found = mergeAbsent cmp found.reverse entries := by
  induction entries generalizing found with
  | nil => rfl
  | cons entry entries ih =>
    by_cases h : entry ∈ found
    · simp only [List.eraseDups.loop, List.elem_eq_mem, h, decide_True, ih, mergeAbsent_cons,
        (oscapListContains_iff hcmp).2 (List.mem_reverse.2 h), if_true]
    · have hcontains : oscapListContains cmp found.reverse entry = false :=
        Bool.eq_false_iff.2 fun h' => h (List.mem_reverse.1 ((oscapListContains_iff hcmp).1 h'))
      simp only [List.eraseDups.loop, List.elem_eq_mem, h, decide_False, ih, mergeAbsent_cons,
        hcontains, Bool.false_eq_true, if_false, List.reverse_cons]

/-- Merging into the empty list keeps the first occurrence of each entry. -/
theorem mergeAbsent_nil_eq_eraseDups [DecidableEq α] (entries : List α) :
    mergeAbsent cmp [] entries = entries.eraseDups :=
  (eraseDups_loop_eq_mergeAbsent hcmp entries []).symm

end Merge

/-! ## The walk -/

mutual
/-- The walk of `xccdf_check_get_systems_and_files` and `xccdf_check_get_files`: a complex
check merges its children's lists in order; a simple check merges the entries
`entry system ref` of its content-refs. -/
def checkGetEntries {α : Type} (cmp : α → α → Bool) (entry : String → XccdfCheckContentRef → α) :
    XccdfCheck → List α
  | .simple system _ _ _ contentRefs _ => mergeAbsent cmp [] (contentRefs.map (entry system))
  | .complex _ _ children => checksGetEntries cmp entry [] children

/-- The loop over checks: each check's list is merged into the running list `list`. -/
def checksGetEntries {α : Type} (cmp : α → α → Bool) (entry : String → XccdfCheckContentRef → α)
    (list : List α) : List XccdfCheck → List α
  | [] => list
  | check :: checks =>
    checksGetEntries cmp entry (mergeAbsent cmp list (checkGetEntries cmp entry check)) checks
end

mutual
/-- The walk of `xccdf_item_get_systems_and_files` and `xccdf_item_get_files`: a Rule merges
its checks' lists, a Group its children's; a Value returns `NULL` (`none`). The loop hands a
child's `NULL` list to the iterator `nullIterator`, which is not under src/: an error here. -/
def itemGetEntries {α : Type} (cmp : α → α → Bool) (entry : String → XccdfCheckContentRef → α)
    (nullIterator : String) : XccdfItem → Except String (Option (List α))
  | .rule r => .ok (some (checksGetEntries cmp entry [] r.checks))
  | .group _ content => itemsGetEntries cmp entry nullIterator [] content
  | .value _ => .ok none

/-- The loop over a content list: each child's list is merged into the running list `list`. -/
def itemsGetEntries {α : Type} (cmp : α → α → Bool) (entry : String → XccdfCheckContentRef → α)
    (nullIterator : String) (list : List α) : List XccdfItem → Except String (Option (List α))
  | [] => .ok (some list)
  | child :: children =>
    match itemGetEntries cmp entry nullIterator child with
    | .error e => .error e
    | .ok none => .error nullIterator
    | .ok (some sub) => itemsGetEntries cmp entry nullIterator (mergeAbsent cmp list sub) children
end

/-- `xccdf_check_get_systems_and_files(check)`. -/
def xccdfCheckGetSystemsAndFiles : XccdfCheck → List OscapFileEntry :=
  checkGetEntries xccdfFileEntryCmpFunc fileEntry

/-- `xccdf_item_get_systems_and_files(item)` on a Rule, Group or Value. -/
def xccdfItemGetSystemsAndFiles : XccdfItem → Except String (Option (List OscapFileEntry)) :=
  itemGetEntries xccdfFileEntryCmpFunc fileEntry "oscap_file_entry_list_get_files(NULL)"

/-- `xccdf_item_get_systems_and_files` on the Benchmark: the loop over its content. -/
def XccdfBenchmark.getSystemsAndFiles (benchmark : XccdfBenchmark) :
    Except String (Option (List OscapFileEntry)) :=
  itemsGetEntries xccdfFileEntryCmpFunc fileEntry "oscap_file_entry_list_get_files(NULL)" []
    benchmark.content

/-- `xccdf_check_get_files(check)`. -/
def xccdfCheckGetFiles : XccdfCheck → List String :=
  checkGetEntries xccdfCmpFunc fun _ ref => ref.href

/-- `xccdf_item_get_files(item)` on a Rule, Group or Value. -/
def xccdfItemGetFiles : XccdfItem → Except String (Option (List String)) :=
  itemGetEntries xccdfCmpFunc (fun _ ref => ref.href) "oscap_stringlist_get_strings(NULL)"

/-- `xccdf_item_get_files` on the Benchmark: the loop over its content. -/
def XccdfBenchmark.getFiles (benchmark : XccdfBenchmark) : Except String (Option (List String)) :=
  itemsGetEntries xccdfCmpFunc (fun _ ref => ref.href) "oscap_stringlist_get_strings(NULL)" []
    benchmark.content

/-! ## What the walk lists -/

mutual
/-- The entries `entry system ref` of the content-refs of a check, a complex check contributing
its children's entries, in document order. -/
def XccdfCheck.entries {α : Type} (entry : String → XccdfCheckContentRef → α) :
    XccdfCheck → List α
  | .simple system _ _ _ contentRefs _ => contentRefs.map (entry system)
  | .complex _ _ children => XccdfCheck.listEntries entry children

/-- `XccdfCheck.entries` over a list of checks. -/
def XccdfCheck.listEntries {α : Type} (entry : String → XccdfCheckContentRef → α) :
    List XccdfCheck → List α
  | [] => []
  | check :: checks => check.entries entry ++ XccdfCheck.listEntries entry checks
end

/-- The entries of all checks of the given Rules, in order. -/
def rulesEntries {α : Type} (entry : String → XccdfCheckContentRef → α) (rules : List XccdfRule) :
    List α :=
  rules.flatMap fun rule => XccdfCheck.listEntries entry rule.checks

/-- The (system, href) pairs of the check-content-refs of all checks of all Rules at or below
the item, in document order. -/
def XccdfItem.fileEntries (item : XccdfItem) : List OscapFileEntry :=
  rulesEntries fileEntry (item.rulePaths.map (·.1))

/-- The (system, href) pairs of the check-content-refs of all checks of all Rules of the
Benchmark, in document order. -/
def XccdfBenchmark.fileEntries (benchmark : XccdfBenchmark) : List OscapFileEntry :=
  rulesEntries fileEntry (benchmark.rulePaths.map (·.1))

mutual
/-- No Value at or below the item. -/
def XccdfItem.valueFree : XccdfItem → Bool
  | .rule _ => true
  | .group _ content => XccdfItem.listValueFree content
  | .value _ => false

/-- No Value in a content list or below it. -/
def XccdfItem.listValueFree : List XccdfItem → Bool
  | [] => true
  | item :: items => item.valueFree && XccdfItem.listValueFree items
end

theorem rulesEntries_listRulePaths_cons {α : Type} (entry : String → XccdfCheckContentRef → α)
    (item : XccdfItem) (items : List XccdfItem) :
    rulesEntries entry ((XccdfItem.listRulePaths (item :: items)).map (·.1)) =
      rulesEntries entry (item.rulePaths.map (·.1)) ++
        rulesEntries entry ((XccdfItem.listRulePaths items).map (·.1)) := by
  simp [rulesEntries, XccdfItem.listRulePaths]

theorem rulesEntries_group {α : Type} (entry : String → XccdfCheckContentRef → α)
    (g : XccdfGroup) (content : List XccdfItem) :
    rulesEntries entry ((XccdfItem.group g content).rulePaths.map (·.1)) =
      rulesEntries entry ((XccdfItem.listRulePaths content).map (·.1)) := by
  simp [XccdfItem.rulePaths, Function.comp_def]

mutual
/-- A check's list is its entries, de-duplicated. -/
theorem checkGetEntries_eq {α : Type} {cmp : α → α → Bool}
    (hcmp : ∀ a b, cmp a b = true ↔ a = b) (entry : String → XccdfCheckContentRef → α) :
    ∀ check : XccdfCheck, checkGetEntries cmp entry check = mergeAbsent cmp [] (check.entries entry)
  | .simple .. => rfl
  | .complex _ _ children => by
    rw [checkGetEntries, checksGetEntries_eq hcmp entry [] children, XccdfCheck.entries]

/-- The loop over checks merges their entries into the running list. -/
theorem checksGetEntries_eq {α : Type} {cmp : α → α → Bool}
    (hcmp : ∀ a b, cmp a b = true ↔ a = b) (entry : String → XccdfCheckContentRef → α)
    (list : List α) :
    ∀ checks : List XccdfCheck,
      checksGetEntries cmp entry list checks =
        mergeAbsent cmp list (XccdfCheck.listEntries entry checks)
  | [] => rfl
  | check :: checks => by
    rw [checksGetEntries, checksGetEntries_eq hcmp entry _ checks,
      checkGetEntries_eq hcmp entry check,
      mergeAbsent_mergeAbsent_nil hcmp, XccdfCheck.listEntries, mergeAbsent_append]
end

section Walk

variable {α : Type} {cmp : α → α → Bool} (hcmp : ∀ a b, cmp a b = true ↔ a = b)
  (entry : String → XccdfCheckContentRef → α) (nullIterator : String)
include hcmp

mutual
/-- Without a Value below it, an item's list is the entries of its Rules, de-duplicated. -/
theorem itemGetEntries_of_valueFree :
    ∀ item : XccdfItem, item.valueFree = true →
      itemGetEntries cmp entry nullIterator item =
        .ok (some (mergeAbsent cmp [] (rulesEntries entry (item.rulePaths.map (·.1)))))
  | .rule r, _ => by
    simp [itemGetEntries, checksGetEntries_eq hcmp, rulesEntries, XccdfItem.rulePaths]
  | .group g content, h => by
    rw [itemGetEntries, itemsGetEntries_of_valueFree [] content h, rulesEntries_group]
  | .value _, h => by cases h

/-- Without a Value in it or below it, the loop over a content list merges the entries of its
Rules into the running list. -/
theorem itemsGetEntries_of_valueFree (list : List α) :
    ∀ items : List XccdfItem, XccdfItem.listValueFree items = true →
      itemsGetEntries cmp entry nullIterator list items =
        .ok (some (mergeAbsent cmp list
          (rulesEntries entry ((XccdfItem.listRulePaths items).map (·.1)))))
  | [], _ => rfl
  | item :: items, h => by
    simp only [XccdfItem.listValueFree, Bool.and_eq_true] at h
    rw [itemsGetEntries, itemGetEntries_of_valueFree item h.1]
    dsimp only
    rw [itemsGetEntries_of_valueFree _ items h.2, mergeAbsent_mergeAbsent_nil hcmp,
      rulesEntries_listRulePaths_cons, mergeAbsent_append]
end

end Walk

mutual
/-- With a Value at or below it, an item is that Value or its walk ends at the iterator of a
`NULL` list. -/
theorem itemGetEntries_of_not_valueFree {α : Type} {cmp : α → α → Bool}
    (hcmp : ∀ a b, cmp a b = true ↔ a = b) (entry : String → XccdfCheckContentRef → α)
    (nullIterator : String) :
    ∀ item : XccdfItem, item.valueFree = false →
      itemGetEntries cmp entry nullIterator item = .ok none ∨
        itemGetEntries cmp entry nullIterator item = .error nullIterator
  | .rule _, h => by cases h
  | .group _ content, h =>
    .inr (itemsGetEntries_of_not_valueFree hcmp entry nullIterator [] content h)
  | .value _, _ => .inl rfl

/-- With a Value in a content list or below it, the loop ends at the iterator of a `NULL`
list. -/
theorem itemsGetEntries_of_not_valueFree {α : Type} {cmp : α → α → Bool}
    (hcmp : ∀ a b, cmp a b = true ↔ a = b) (entry : String → XccdfCheckContentRef → α)
    (nullIterator : String) (list : List α) :
    ∀ items : List XccdfItem, XccdfItem.listValueFree items = false →
      itemsGetEntries cmp entry nullIterator list items = .error nullIterator
  | [], h => by cases h
  | item :: items, h => by
    rw [itemsGetEntries]
    cases hitem : item.valueFree
    · rcases itemGetEntries_of_not_valueFree hcmp entry nullIterator item hitem with hnull | herror
      · rw [hnull]
      · rw [herror]
    · have hitems : XccdfItem.listValueFree items = false := by
        simpa [XccdfItem.listValueFree, hitem] using h
      rw [itemGetEntries_of_valueFree hcmp entry nullIterator item hitem]
      exact itemsGetEntries_of_not_valueFree hcmp entry nullIterator _ items hitems
end

mutual
/-- Entries mapped after the walk are the walk of the mapped entries. -/
theorem XccdfCheck.entries_map {α β : Type} (entry : String → XccdfCheckContentRef → α)
    (f : α → β) :
    ∀ check : XccdfCheck, check.entries (fun system ref => f (entry system ref)) =
      (check.entries entry).map f
  | .simple .. => by simp [XccdfCheck.entries]
  | .complex _ _ children => by
    rw [XccdfCheck.entries, XccdfCheck.entries, XccdfCheck.listEntries_map entry f children]

/-- `XccdfCheck.entries_map` over a list of checks. -/
theorem XccdfCheck.listEntries_map {α β : Type} (entry : String → XccdfCheckContentRef → α)
    (f : α → β) :
    ∀ checks : List XccdfCheck, XccdfCheck.listEntries (fun system ref => f (entry system ref))
      checks = (XccdfCheck.listEntries entry checks).map f
  | [] => rfl
  | check :: checks => by
    rw [XccdfCheck.listEntries, XccdfCheck.listEntries, List.map_append,
      XccdfCheck.entries_map entry f check, XccdfCheck.listEntries_map entry f checks]
end

/-- The hrefs `xccdf_item_get_files` merges are the files of the (system, href) pairs, and
merging them is de-duplicating the files of the de-duplicated pairs. -/
theorem mergeAbsent_hrefs (rules : List XccdfRule) :
    mergeAbsent xccdfCmpFunc [] (rulesEntries (fun _ ref => ref.href) rules) =
      ((rulesEntries fileEntry rules).eraseDups.map (·.file)).eraseDups := by
  have hfiles : rulesEntries (fun _ ref => ref.href) rules =
      (rulesEntries fileEntry rules).map (·.file) := by
    simp only [rulesEntries, List.map_flatMap]
    exact congrArg rules.flatMap
      (funext fun rule => XccdfCheck.listEntries_map fileEntry OscapFileEntry.file rule.checks)
  rw [hfiles, ← mergeAbsent_nil_eq_eraseDups xccdfFileEntryCmpFunc_iff,
    ← mergeAbsent_nil_eq_eraseDups xccdfCmpFunc_iff,
    mergeAbsent_map_mergeAbsent xccdfFileEntryCmpFunc_iff xccdfCmpFunc_iff]
  rfl

/-- For every Rule, Group or Benchmark without a Value below it,
`xccdf_item_get_systems_and_files` is the (system, href) pairs of all its checks with every
repeated pair after its first occurrence removed, and `xccdf_item_get_files` the hrefs of that
list with every repeated href after its first occurrence removed. -/
theorem getSystemsAndFiles_eraseDups :
    (∀ item : XccdfItem, item.valueFree = true →
      xccdfItemGetSystemsAndFiles item = .ok (some item.fileEntries.eraseDups) ∧
        xccdfItemGetFiles item = .ok (some (item.fileEntries.eraseDups.map (·.file)).eraseDups)) ∧
    (∀ benchmark : XccdfBenchmark, XccdfItem.listValueFree benchmark.content = true →
      benchmark.getSystemsAndFiles = .ok (some benchmark.fileEntries.eraseDups) ∧
        benchmark.getFiles =
          .ok (some (benchmark.fileEntries.eraseDups.map (·.file)).eraseDups)) := by
  refine ⟨fun item h => ⟨?_, ?_⟩, fun benchmark h => ⟨?_, ?_⟩⟩
  · rw [xccdfItemGetSystemsAndFiles, itemGetEntries_of_valueFree xccdfFileEntryCmpFunc_iff _ _ _ h,
      mergeAbsent_nil_eq_eraseDups xccdfFileEntryCmpFunc_iff, XccdfItem.fileEntries]
  · rw [xccdfItemGetFiles, itemGetEntries_of_valueFree xccdfCmpFunc_iff _ _ _ h, mergeAbsent_hrefs,
      XccdfItem.fileEntries]
  · rw [XccdfBenchmark.getSystemsAndFiles,
      itemsGetEntries_of_valueFree xccdfFileEntryCmpFunc_iff _ _ _ _ h,
      mergeAbsent_nil_eq_eraseDups xccdfFileEntryCmpFunc_iff]
    rfl
  · rw [XccdfBenchmark.getFiles, itemsGetEntries_of_valueFree xccdfCmpFunc_iff _ _ _ _ h,
      mergeAbsent_hrefs]
    rfl

/-- A Rule whose one check reads `href` with the checking system `system`. -/
def checkingRule (id system href : String) : XccdfRule :=
  { id, weight := 1, selected := true, platforms := [], role := 0, severity := 0,
    checks := [.simple system none false false [⟨href, none⟩] []] }

/-- Two Rules whose checks read one file with two checking systems, and a Rule that reads it
again with the first system. -/
def sharedFileContent : List XccdfItem :=
  [.rule (checkingRule "r1" "oval" "a.xml"), .rule (checkingRule "r2" "sce" "a.xml"),
    .rule (checkingRule "r3" "oval" "a.xml")]

/-- A Benchmark holding a Group `g` of `sharedFileContent`. -/
def sharedFileBenchmark : XccdfBenchmark :=
  { id := "benchmark", platforms := [], content := [.group ⟨"g", 1, true, []⟩ sharedFileContent],
    plainTexts := [], schemaVersion := "1.2", cpeList := none, cpeLangModel := none,
    profiles := [], ids_nodup := by decide }

theorem getSystemsAndFiles_sharedFileBenchmark :
    (XccdfItem.group ⟨"g", 1, true, []⟩ sharedFileContent).valueFree = true ∧
      (xccdfItemGetSystemsAndFiles (.group ⟨"g", 1, true, []⟩ sharedFileContent) =
          .ok (some (XccdfItem.group ⟨"g", 1, true, []⟩ sharedFileContent).fileEntries.eraseDups) ∧
        xccdfItemGetFiles (.group ⟨"g", 1, true, []⟩ sharedFileContent) =
          .ok (some ((XccdfItem.group ⟨"g", 1, true, []⟩ sharedFileContent).fileEntries.eraseDups
            |>.map (·.file)).eraseDups)) ∧
    XccdfItem.listValueFree sharedFileBenchmark.content = true ∧
      (sharedFileBenchmark.getSystemsAndFiles =
          .ok (some sharedFileBenchmark.fileEntries.eraseDups) ∧
        sharedFileBenchmark.getFiles =
          .ok (some (sharedFileBenchmark.fileEntries.eraseDups.map (·.file)).eraseDups)) :=
  ⟨rfl, getSystemsAndFiles_eraseDups.1 _ rfl, rfl, getSystemsAndFiles_eraseDups.2 _ rfl⟩

/-- Below a Group or Benchmark that holds a Value, both functions hand the Value's `NULL` list
to a list iterator. -/
theorem getSystemsAndFiles_of_not_valueFree :
    (∀ (g : XccdfGroup) (content : List XccdfItem), XccdfItem.listValueFree content = false →
      xccdfItemGetSystemsAndFiles (.group g content) =
          .error "oscap_file_entry_list_get_files(NULL)" ∧
        xccdfItemGetFiles (.group g content) = .error "oscap_stringlist_get_strings(NULL)") ∧
    (∀ benchmark : XccdfBenchmark, XccdfItem.listValueFree benchmark.content = false →
      benchmark.getSystemsAndFiles = .error "oscap_file_entry_list_get_files(NULL)" ∧
        benchmark.getFiles = .error "oscap_stringlist_get_strings(NULL)") :=
  ⟨fun _ _ h => ⟨itemsGetEntries_of_not_valueFree xccdfFileEntryCmpFunc_iff _ _ _ _ h,
      itemsGetEntries_of_not_valueFree xccdfCmpFunc_iff _ _ _ _ h⟩,
    fun _ h => ⟨itemsGetEntries_of_not_valueFree xccdfFileEntryCmpFunc_iff _ _ _ _ h,
      itemsGetEntries_of_not_valueFree xccdfCmpFunc_iff _ _ _ _ h⟩⟩

example : xccdfItemGetSystemsAndFiles
    (.group ⟨"g", 1, true, []⟩ [.value ⟨"v", 0, 0, [], []⟩]) =
      .error "oscap_file_entry_list_get_files(NULL)" := rfl

/-! ## No entry is lost -/

/-- An entry of a check is an entry of every list of checks that holds it. -/
theorem XccdfCheck.mem_listEntries {α : Type} (entry : String → XccdfCheckContentRef → α)
    {x : α} {check : XccdfCheck} (hx : x ∈ check.entries entry) :
    ∀ {checks : List XccdfCheck}, check ∈ checks → x ∈ XccdfCheck.listEntries entry checks
  | _ :: _, .head _ => by
    rw [XccdfCheck.listEntries]
    exact List.mem_append_left _ hx
  | _ :: _, .tail _ h => by
    rw [XccdfCheck.listEntries]
    exact List.mem_append_right _ (XccdfCheck.mem_listEntries entry hx h)

/-- Without a Value in a content list, its walk lists every entry of every check of every
Rule below it: the merge drops repeats only. -/
theorem itemsGetEntries_mem {α : Type} {cmp : α → α → Bool}
    (hcmp : ∀ a b, cmp a b = true ↔ a = b) (entry : String → XccdfCheckContentRef → α)
    (nullIterator : String) {items : List XccdfItem} (h : XccdfItem.listValueFree items = true)
    {p : XccdfRule × List XccdfGroup} (hp : p ∈ XccdfItem.listRulePaths items)
    {check : XccdfCheck} (hcheck : check ∈ p.1.checks) {x : α} (hx : x ∈ check.entries entry) :
    ∃ list, itemsGetEntries cmp entry nullIterator [] items = .ok (some list) ∧ x ∈ list :=
  ⟨_, itemsGetEntries_of_valueFree hcmp entry nullIterator [] items h,
    (mem_mergeAbsent hcmp).2 <| .inr <| List.mem_flatMap.2
      ⟨p.1, List.mem_map_of_mem _ hp, XccdfCheck.mem_listEntries entry hx hcheck⟩⟩

end Xccdf
