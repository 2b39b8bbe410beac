import SearchQuery.CommandLine.Run
import SearchQuery.Proofs.NormalForm
import SearchQuery.Proofs.ReadingBack
import SearchQuery.Proofs.Request.Building

/-!
# Paging

Every way to a request has its own words for a page that is not asked for. A query says zero or
less for either number; a builder says a negative size, or an offset of zero or less; the command
for all documents always asks for a size, and a negative one is an error of its configuration. What
is asked for is written out as the number it was, and no other setting has a say in it.

Main statement: `page_shown_exactly`.
-/

namespace SearchQuery

open Json

/-- Whoever reads the text finds the size and the offset as these numbers, or no such member where
there is none. No size is negative, and no offset is zero or less. -/
structure ShowsPage (text : String) (size start : Option Int64) : Prop where
  readable : ∃ room v, Value.ofText? room text = some v
  size_read : ∀ room v, Value.ofText? room text = some v →
    v.get? "size" = size.map fun n => .int n.toInt
  start_read : ∀ room v, Value.ofText? room text = some v →
    v.get? "from" = start.map fun n => .int n.toInt
  size_nonneg : ∀ n ∈ size, 0 ≤ n
  start_pos : ∀ n ∈ start, 0 < n

/-! ## Numbers in a request -/

namespace SearchRequest

variable (r : SearchRequest)

theorem get?_size : r.json.get? "size" = r.size.map fun n => .int n.toNat := by
  simp [json, Value.get?, List.lookup_append, List.lookup_cons]

theorem get?_from : r.json.get? "from" = r.start.map fun n => .int n.toNat := by
  simp [json, Value.get?, List.lookup_append, List.lookup_cons]

end SearchRequest

/-- Numbers that are not negative are written out as they are. -/
theorem map_int_natural? {page : Option Int64} (h : ∀ n ∈ page, 0 ≤ n) :
    ((page.bind natural?).map fun w => Value.int w.toNat) =
      page.map fun n => .int n.toInt := by
  cases page with
  | none => rfl
  | some n =>
    obtain ⟨w, hw⟩ := exists_natural? (h n rfl)
    have hvalue : (w.toNat : Int) = n.toInt := natural?_eq_some_iff.mp hw
    rw [Option.bind_some, hw, Option.map_some, Option.map_some, hvalue]

/-- The text of a request shows the page that its numbers come from. -/
theorem SearchRequest.showsPage_text (l : Layout) {r : SearchRequest} {size start : Option Int64}
    (hsize : r.size = size.bind natural?) (hstart : r.start = start.bind natural?)
    (hnonneg : ∀ n ∈ size, 0 ≤ n) (hpos : ∀ n ∈ start, 0 < n) :
    ShowsPage (r.text l) size start := by
  have hread {room : Nat} {v : Value} (h : Value.ofText? room (r.text l) = some v) :
      r.json = v := by
    rw [r.ofText?_text] at h
    exact (Option.ite_some_none_eq_some.mp h).2
  refine ⟨⟨r.json.nesting, r.json, ?_⟩, fun room v h => ?_, fun room v h => ?_, hnonneg, hpos⟩
  · rw [r.ofText?_text, if_pos (Nat.le_refl _)]
  · rw [← hread h, r.get?_size, hsize, map_int_natural? hnonneg]
  · rw [← hread h, r.get?_from, hstart, map_int_natural? fun n hn => Int64.le_of_lt (hpos n hn)]

/-! ## The three ways -/

theorem pos_of_mem_positive? {x n : Int64} (h : n ∈ positive? x) : 0 < n := by
  obtain ⟨hx, rfl⟩ := Option.ite_some_none_eq_some.mp h
  exact hx

/-- A query shows the numbers that are positive. -/
theorem Query.showsPage_translation (l : Layout) (q : Query) :
    ShowsPage (q.translation.text l) (positive? q.size) (positive? q.offset) := by
  rw [q.translation_eq]
  exact SearchRequest.showsPage_text l rfl rfl
    (fun _ hn => Int64.le_of_lt (pos_of_mem_positive? hn)) fun _ => pos_of_mem_positive?

theorem natural?_of_neg {x : Int64} (h : ¬0 ≤ x) : natural? x = none := by
  refine Option.eq_none_iff_forall_ne_some.mpr fun w hw => h ?_
  have hvalue : (w.toNat : Int) = x.toInt := natural?_eq_some_iff.mp hw
  rw [Int64.le_iff_toInt_le, ← hvalue]
  exact Int.natCast_nonneg _

/-- A number that is not set counts as the sentinel, and so does every other negative one. -/
theorem natural?_getD (page : Option Int64) :
    natural? (page.getD (-1)) = (page.filter (0 ≤ ·)).bind natural? := by
  cases page with
  | none => rfl
  | some n =>
    by_cases hn : 0 ≤ n
    · simp [Option.filter_some, hn]
    · simp [Option.filter_some, hn, natural?_of_neg]

theorem positive?_getD (page : Option Int64) :
    positive? (page.getD 0) = page.filter (0 < ·) := by
  cases page with
  | none => rfl
  | some n => by_cases hn : 0 < n <;> simp [positive?, Option.filter_some, hn]

namespace RequestBuilder

/-- A builder shows the size that was set last if it is not negative, and the offset that was set
last if it is positive. -/
theorem showsPage_ofSteps (l : Layout) (steps : List Step) :
    ShowsPage ((ofSteps steps).build.text l) ((lastSet Step.size? steps).filter (0 ≤ ·))
      ((lastSet Step.start? steps).filter (0 < ·)) := by
  refine SearchRequest.showsPage_text l ?_ ?_ (fun n hn => ?_) fun n hn => ?_
  · rw [← natural?_getD, ← size_ofSteps]
    rfl
  · rw [← positive?_getD, ← start_ofSteps, ← filter_natural?]
    rfl
  · exact of_decide_eq_true (Option.mem_filter_iff.mp hn).2
  · exact of_decide_eq_true (Option.mem_filter_iff.mp hn).2

end RequestBuilder

/-- A configuration without errors has no page of negative size. -/
theorem Config.nonneg_of_errors {c : Config} {size : Int64} (herrors : c.errors = [])
    (hcommand : c.command = .all size) : 0 ≤ size := by
  have hpage : c.hasNegativePage = false := by
    by_contra h
    simp [errors, h] at herrors
  rw [hasNegativePage, hcommand] at hpage
  exact Int64.not_lt.mp (of_decide_eq_false hpage)

/-- All documents are asked for as by a builder of which only the size is set. -/
theorem SearchRequest.showsPage_everything (l : Layout) {size : Int64} (h : 0 ≤ size) :
    ShowsPage ((everything size).text l) (some size) none := by
  have hpage := RequestBuilder.showsPage_ofSteps l [.size size]
  have hsize : (lastSet RequestBuilder.Step.size? [.size size]).filter (0 ≤ ·) = some size := by
    simp [lastSet, RequestBuilder.Step.size?, h]
  rw [hsize] at hpage
  exact hpage

/-- A query that compiles shows its size and its offset where they are positive; a builder shows the
size set last if it is not negative and the offset set last if it is positive, whatever else is done
to it; and the command for all documents, if its configuration is usable, always shows the size that
is configured. All of them show the number as it is. -/
theorem page_shown_exactly :
    (∀ (q : Query) options l text, (q.compileText l options).result = .ok text →
      ShowsPage text (positive? q.size) (positive? q.offset)) ∧
    (∀ steps l, ShowsPage ((RequestBuilder.ofSteps steps).build.text l)
      ((lastSet RequestBuilder.Step.size? steps).filter (0 ≤ ·))
      ((lastSet RequestBuilder.Step.start? steps).filter (0 < ·))) ∧
    ∀ (c : Config) size input, c.errors = [] → c.command = .all size →
      ∃ output, (c.run input).result = .ok output ∧ ShowsPage output (some size) none := by
  refine ⟨fun q options l text h => ?_, fun steps l => RequestBuilder.showsPage_ofSteps l steps,
    fun c size input herrors hcommand => ?_⟩
  · rw [Query.result_compileText, outcome_eq_ok_iff] at h
    obtain ⟨-, rfl⟩ := h
    exact q.showsPage_translation l
  · refine ⟨(SearchRequest.everything size).text c.layout, ?_,
      SearchRequest.showsPage_everything _ (Config.nonneg_of_errors herrors hcommand)⟩
    rw [Config.run, hcommand]
    rfl

/-- The largest size that there is, from the first document on. -/
def Query.largestPage : Query := { size := Int64.maxValue, offset := 0 }

/-- The largest size is shown as it is. A size of zero is shown by a builder and for all documents;
the one that was set before is forgotten, and a negative offset is none. -/
theorem page_shown_exactly_largestPage :
    (∃ text, (Query.largestPage.compileText .compact {}).result = .ok text ∧
      ShowsPage text (some Int64.maxValue) none) ∧
    ShowsPage ((RequestBuilder.ofSteps [.size 7, .start (-1), .size 0]).build.text .indented)
      (some 0) none ∧
    Config.errors { command := .all 0 } = [] ∧
    ∃ output, (Config.run { command := .all 0 } none).result = .ok output ∧
      ShowsPage output (some 0) none := by
  obtain ⟨hquery, hbuilder, hall⟩ := page_shown_exactly
  have hcompiled : (Query.largestPage.compileText .compact {}).result =
      .ok (Query.largestPage.translation.text .compact) := rfl
  have hpage := hquery _ _ _ _ hcompiled
  have hsize : positive? Query.largestPage.size = some Int64.maxValue := by decide
  have hstart : positive? Query.largestPage.offset = none := by decide
  rw [hsize, hstart] at hpage
  have herrors : Config.errors { command := .all 0 } = [] := by decide
  exact ⟨⟨_, hcompiled, hpage⟩, hbuilder _ _, herrors, hall _ _ none herrors rfl⟩

end SearchQuery
