import SearchQuery.Proofs.Mapping.Leaves

/-!
# Starting further down in a mapping

A start is a path between dots, of which empty parts count for nothing. Its field paths are those of
the value it leads to; a start behind a start goes on from there. What is listed there is listed from
the top as well, unless the way leads through an object with properties, whose names are then missing
from the paths.

Main statement: `FieldPath.ofMappingAt_goes_on`.
-/

namespace SearchQuery.FieldPath

open Json Value

/-! ## Ways through a document -/

/-- Keys lead from one value to another: each is the key of a member, whose value goes on. -/
inductive Leads : Value → List String → Value → Prop
  | here (v : Value) : Leads v [] v
  | member {v u w : Value} {key : String} {keys : List String} (hmember : v.get? key = some u)
      (h : Leads u keys w) : Leads v (key :: keys) w

/-- No value on the way along keys has properties, its last one apart. -/
def PassesNoProperties (v : Value) (keys : List String) : Prop :=
  ∀ before key after w, keys = before ++ key :: after → Leads v before w →
    w.get? "properties" = none

theorem leads_iff {v w : Value} {keys : List String} :
    Leads v keys w ↔ descend? v keys = some w := by
  constructor
  · intro h
    induction h with
    | here v => rfl
    | member hmember h ih => rw [descend?, hmember, Option.bind_some, ih]
  · intro h
    induction keys generalizing v with
    | nil =>
      obtain rfl := Option.some.inj h
      exact .here v
    | cons key keys ih =>
      obtain ⟨u, hu, hw⟩ := Option.bind_eq_some_iff.mp h
      exact .member hu (ih hw)

theorem passesNoProperties_nil (v : Value) : PassesNoProperties v [] := by
  intro before key after w hkeys
  exact absurd hkeys (by simp)

theorem passesNoProperties_cons {v : Value} {key : String} {keys : List String} :
    PassesNoProperties v (key :: keys) ↔
      v.get? "properties" = none ∧ ∀ u, v.get? key = some u → PassesNoProperties u keys := by
  constructor
  · intro h
    refine ⟨h [] key keys v rfl (.here v), fun u hu before key' after w hkeys hw => ?_⟩
    exact h (key :: before) key' after w (by rw [hkeys]; rfl) (.member hu hw)
  · rintro ⟨hnone, hrest⟩ before key' after w hkeys hw
    cases hw with
    | here => exact hnone
    | member hmember hw =>
      obtain ⟨rfl, rfl⟩ := List.cons.inj hkeys
      exact hrest _ hmember _ key' after w rfl hw

/-- Where the way passes no properties, what is at its end is in the whole. -/
theorem inMapping_of_leads {v w : Value} {keys : List String} (h : Leads v keys w)
    (houtside : PassesNoProperties v keys) {f : FieldPath} (hf : InMapping w f) :
    InMapping v f := by
  induction h with
  | here v => exact hf
  | @member v u w key keys hmember h ih =>
    obtain ⟨hnone, hrest⟩ := passesNoProperties_cons.mp houtside
    cases v with
    | object members =>
      obtain ⟨before, after, rfl, -⟩ := List.lookup_eq_some_iff.mp hmember
      exact .inside hnone (List.mem_append_right before List.mem_cons_self) (ih (hrest u hmember) hf)
    | _ => cases hmember

/-! ## Starts -/

/-- A start is as good as its segments. -/
theorem ofMappingAt_congr {s t : String} (h : segments s = segments t) (m : Value) :
    ofMappingAt m s = ofMappingAt m t := by
  rw [ofMappingAt, ofMappingAt, steps_eq_segments, steps_eq_segments, h]

theorem ofMappingAt_of_leads {m n : Value} {s : String} (h : Leads m (segments s) n) :
    ofMappingAt m s = ofMapping n := by
  rw [ofMappingAt, steps_eq_segments, leads_iff.mp h]

theorem ofMappingAt_eq_nil {m : Value} {s : String} (h : ¬∃ n, Leads m (segments s) n) :
    ofMappingAt m s = [] := by
  have hnone : descend? m (segments s) = none := by
    rw [Option.eq_none_iff_forall_ne_some]
    intro n hn
    exact h ⟨n, leads_iff.mpr hn⟩
  rw [ofMappingAt, steps_eq_segments, hnone]

/-- From where the first part of a start leads, the rest of it goes on. -/
theorem ofMappingAt_append_dot {m n : Value} {a b : String} (h : Leads m (segments a) n) :
    ofMappingAt m (a ++ "." ++ b) = ofMappingAt n b := by
  rw [ofMappingAt, ofMappingAt, steps_eq_segments, steps_eq_segments, segments_append_dot,
    descend?_append, leads_iff.mp h, Option.bind_some]

/-- Where the first part of a start leads nowhere, all of it does. -/
theorem ofMappingAt_append_dot_eq_nil {m : Value} {a b : String}
    (h : ¬∃ n, Leads m (segments a) n) : ofMappingAt m (a ++ "." ++ b) = [] := by
  refine ofMappingAt_eq_nil ?_
  rintro ⟨n, hn⟩
  rw [leads_iff, segments_append_dot, descend?_append, Option.bind_eq_some_iff] at hn
  obtain ⟨u, hu, -⟩ := hn
  exact h ⟨u, leads_iff.mpr hu⟩

/-- A start that passes no properties lists some of the fields of the whole, in their order. -/
theorem ofMappingAt_sublist {m : Value} {s : String} (h : PassesNoProperties m (segments s)) :
    (ofMappingAt m s).Sublist (ofMapping m) := by
  by_cases hleads : ∃ n, Leads m (segments s) n
  · obtain ⟨n, hn⟩ := hleads
    rw [ofMappingAt_of_leads hn]
    have hsubset : ofMapping n ⊆ ofMapping m := by
      intro f hf
      rw [mem_ofMapping_iff] at hf ⊢
      exact inMapping_of_leads hn h hf
    -- both lists are in strict order, so this one is not only part of the other
    have hsubperm := List.subperm_of_subset (pairwise_ofMapping n).nodup hsubset
    exact List.sublist_of_subperm_of_pairwise hsubperm (pairwise_ofMapping n) (pairwise_ofMapping m)
  · rw [ofMappingAt_eq_nil hleads]
    exact List.nil_sublist _

/-- A start goes on from where its first part leads, and lists nothing if that is nowhere. Dots at
either end of it or behind another dot are nothing to it, and a start of dots lists the whole. What a
start lists, if no value on the way has properties, is listed in the whole, in this order. -/
theorem ofMappingAt_goes_on (m : Value) :
    (∀ a b n, Leads m (segments a) n → ofMappingAt m (a ++ "." ++ b) = ofMappingAt n b) ∧
    (∀ a b, (¬∃ n, Leads m (segments a) n) → ofMappingAt m (a ++ "." ++ b) = []) ∧
    (∀ s, ofMappingAt m ("." ++ s) = ofMappingAt m s ∧
      ofMappingAt m (s ++ ".") = ofMappingAt m s) ∧
    (∀ a b, ofMappingAt m (a ++ "." ++ "." ++ b) = ofMappingAt m (a ++ "." ++ b)) ∧
    (∀ s, (∀ c ∈ s.toList, c = '.') → ofMappingAt m s = ofMapping m) ∧
    ∀ s, PassesNoProperties m (segments s) → (ofMappingAt m s).Sublist (ofMapping m) := by
  refine ⟨fun _ _ _ => ofMappingAt_append_dot, fun _ _ => ofMappingAt_append_dot_eq_nil,
    fun s => ⟨?_, ?_⟩, fun a b => ?_, fun s hs => ?_, fun _ => ofMappingAt_sublist⟩
  · exact ofMappingAt_congr (segments_append_dot_left s) m
  · exact ofMappingAt_congr (segments_append_dot_right s) m
  · refine ofMappingAt_congr ?_ m
    rw [segments_append_dot, segments_append_dot_right, segments_append_dot]
  · refine ofMappingAt_of_leads ?_
    rw [segments_eq_nil hs]
    exact .here m

/-- Past properties the names above are missing from the paths. -/
example : ofMappingAt people "properties.home" = [⟨"city", "keyword"⟩] := by
  cbv

/-- An index of people, as it is listed. -/
def indexOfPeople : Value :=
  .object [("people", .object [("aliases", .object []), ("mappings", people)])]

theorem ofMappingAt_goes_on_indexOfPeople :
    ofMappingAt indexOfPeople ("people" ++ "." ++ "mappings") =
      ofMappingAt (.object [("aliases", .object []), ("mappings", people)]) "mappings" ∧
    ofMappingAt indexOfPeople ("animals" ++ "." ++ "mappings") = [] ∧
    ofMappingAt indexOfPeople ".." = ofMapping indexOfPeople ∧
    (ofMappingAt indexOfPeople "people.mappings").Sublist (ofMapping indexOfPeople) := by
  have hpeople : Leads indexOfPeople (segments "people")
      (.object [("aliases", .object []), ("mappings", people)]) := by
    rw [show segments "people" = ["people"] by cbv]
    exact .member rfl (.here _)
  have hanimals : ¬∃ n, Leads indexOfPeople (segments "animals") n := by
    rw [show segments "animals" = ["animals"] by cbv]
    rintro ⟨n, hn⟩
    cases leads_iff.mp hn
  have hpasses : PassesNoProperties indexOfPeople (segments "people.mappings") := by
    rw [show segments "people.mappings" = ["people", "mappings"] by cbv]
    refine passesNoProperties_cons.mpr ⟨rfl, fun u hu => ?_⟩
    obtain rfl := Option.some.inj hu
    exact passesNoProperties_cons.mpr ⟨rfl, fun u _ => passesNoProperties_nil u⟩
  obtain ⟨hfound, hmissing, -, -, hdots, hsublist⟩ := ofMappingAt_goes_on indexOfPeople
  exact ⟨hfound _ _ _ hpeople, hmissing _ _ hanimals, hdots _ (by simp), hsublist _ hpasses⟩

end SearchQuery.FieldPath
