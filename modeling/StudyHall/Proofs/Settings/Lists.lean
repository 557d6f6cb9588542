import StudyHall.Learner.Views
import StudyHall.Proofs.Settings.Profile
import StudyHall.Proofs.Text.Pieces

/-!
# Lists between commas

Permissions, origins and the tags of a post are told as one text with commas between them. What is
made of such a text is a list of items: each says something, has no comma in it, and neither begins
nor ends with a blank. A list of items that is written with commas is read back as it is, so what
has been read once is not changed by writing and reading it again. All else that a text may hold,
blanks around its pieces and pieces of blanks alone, is lost at the first reading.

## Main results

* `isItem_of_mem_items` — what is read is a list of items.
* `items_intercalate` — what is made of pieces with commas between them.
* `items_of_isItem` — items are read back.
* `lists_read_alike` — the three lists, and what becomes of them when they are written again.
-/

namespace StudyHall

open Text

namespace Text

/-! ## Items -/

/-- A text that may stand in a list: it is not empty, nothing separates it, and there is no blank at
its ends. -/
structure IsItem (item : String) : Prop where
  filled : item ≠ ""
  whole : ',' ∉ item.toList
  trimmed : Trimmed item.toList

/-- Trimming brings nothing in. -/
theorem mem_of_mem_trimChars {c : Char} {cs : List Char} (mem : c ∈ trimChars cs) : c ∈ cs := by
  obtain ⟨before, after, whole, -⟩ := exists_blanks_around cs
  rw [whole]
  exact List.mem_append_left after (List.mem_append_right before mem)

/-- What is read from a text is a list of items. -/
theorem isItem_of_mem_items {text item : String} (mem : item ∈ items text) : IsItem item := by
  obtain ⟨filled, piece, inside, rfl⟩ := mem_items_iff.mp mem
  have plain : ',' ∉ piece := notMem_of_mem_pieces inside
  have left : (trim (String.ofList piece)).toList = trimChars piece := by
    rw [trim, String.toList_ofList, String.toList_ofList]
  refine ⟨filled, ?_, ?_⟩
  · rw [left]
    exact fun comma => plain (mem_of_mem_trimChars comma)
  · rw [left]
    exact trimmed_trimChars piece

/-- An item has no blanks around it. -/
theorem IsItem.trim_eq {item : String} (h : IsItem item) : trim item = item := by
  rw [trim, trimChars_of_trimmed h.trimmed, String.ofList_toList]

/-! ## Writing and reading -/

/-- Of pieces with commas between them those are read that are not blank, without the blanks around
them and in their order. -/
theorem items_intercalate {ps : List String} (plain : ∀ p ∈ ps, ',' ∉ p.toList) :
    items (",".intercalate ps) = (ps.map trim).filter fun item => item ≠ "" := by
  by_cases none : ps = []
  · subst none
    rfl
  · have cut : pieces (· == ',') (",".intercalate ps).toList = ps.map String.toList := by
      have some : ps.map String.toList ≠ [] := mt List.map_eq_nil_iff.mp none
      rw [String.toList_intercalate, ← joinWith_eq_intercalate]
      exact pieces_joinWith (List.forall_mem_map.mpr plain) some
    rw [items_eq, cut, List.map_map]
    simp only [Function.comp_def, String.ofList_toList]

/-- Items are read back from the text that is written of them. -/
theorem items_of_isItem {ws : List String} (all : ∀ w ∈ ws, IsItem w) :
    items (",".intercalate ws) = ws := by
  have trimmed : ws.map trim = ws :=
    (List.map_congr_left fun w mem => (all w mem).trim_eq).trans (List.map_id' ws)
  rw [items_intercalate fun w mem => (all w mem).whole, trimmed, List.filter_eq_self]
  exact fun w mem => decide_eq_true (all w mem).filled

end Text

/-- The origins, the permissions of the first operator and the tags of a post are read from a text
in the same way. What is read are items, and it is read again from the text that is written of it.
Every list of items is read back; of other pieces without commas those that are not blank are read
without the blanks around them. -/
theorem lists_read_alike :
    (∀ (s : Settings) (post : FeedPostRecord), s.allowedOrigins = post.tags →
        s.origins = post.toView.tags)
      ∧ (∀ (s : Settings) (now : Instant) (profile : AdminProfile) (post : FeedPostRecord),
          s.adminProfile now = .ok profile → s.adminPermissions = post.tags →
          profile.permissions = post.toView.tags)
      ∧ (∀ post : FeedPostRecord, (∀ tag ∈ post.toView.tags, IsItem tag)
          ∧ items (",".intercalate post.toView.tags) = post.toView.tags)
      ∧ (∀ ws : List String, (∀ w ∈ ws, IsItem w) → items (",".intercalate ws) = ws)
      ∧ ∀ ps : List String, (∀ p ∈ ps, ',' ∉ p.toList) →
          items (",".intercalate ps) = (ps.map trim).filter fun item => item ≠ "" := by
  refine ⟨?origins, ?permissions, ?again, fun ws => items_of_isItem, fun ps => items_intercalate⟩
  case origins =>
    intro s post same
    show items s.allowedOrigins = items post.tags
    rw [same]
  case permissions =>
    intro s now profile post described same
    have listed := (Settings.adminProfile_eq_ok_iff.mp described).permissions
    rw [listed, same]
    rfl
  case again =>
    intro post
    have read : ∀ tag ∈ items post.tags, IsItem tag := fun _ => isItem_of_mem_items
    exact ⟨read, items_of_isItem read⟩

/-- A list that was written without care. -/
def carelessList : String := " neet pg ,,\x09pharma\n, "

/-- A post with these tags. -/
def carelessPost : FeedPostRecord :=
  ⟨.ofNat 5, "ARTICLE", "Doses", "Ten of them", none, carelessList, "Team", "Read", 4, 1, "3 min",
    .epoch⟩

/-- Settings with these origins and permissions. -/
def carelessSettings : Settings :=
  { hallSettings "user" "admin" with
    allowedOrigins := carelessList
    adminPermissions := carelessList }

/-- The first operator of these settings. -/
def carelessOperator : AdminProfile :=
  ⟨.ofNat 1, "Super Admin", "root@hall", .admin, .neetPg, .epoch, ["neet pg", "pharma"]⟩

theorem lists_read_alike_sample :
    carelessSettings.origins = ["neet pg", "pharma"]
      ∧ carelessPost.toView.tags = ["neet pg", "pharma"]
      ∧ items "neet pg,pharma" = ["neet pg", "pharma"]
      ∧ items "pharma, " = ["pharma"] := by
  have described : carelessSettings.adminProfile .epoch = .ok carelessOperator := by
    decide +kernel
  have listed : items carelessList = ["neet pg", "pharma"] := by decide +kernel
  have read : ∀ w ∈ ["neet pg", "pharma"], IsItem w :=
    fun w mem => isItem_of_mem_items (listed ▸ mem)
  obtain ⟨origins, permissions, -, back, loose⟩ := lists_read_alike
  have tags := permissions carelessSettings .epoch carelessOperator carelessPost described rfl
  refine ⟨(origins carelessSettings carelessPost rfl).trans tags.symm, tags.symm, back _ read, ?_⟩
  exact (loose ["pharma", " "] (by decide)).trans (by decide +kernel)

end StudyHall
