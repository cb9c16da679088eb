/-
A value that is written as TOML comes back from the text.

What stands on a line and what has a header of its own follows from the shape: lists hold either
values on a line or tables (`Shape.isTabular`), so nothing is written in a form that the tables of
a document could not take.

* `Shape.regular_toToml`, `Shape.shows_toToml` — what is written can be read back, and then it
  shows the value;
* `fromToml_toToml` — a record comes back from its text.
-/
import Mathlib.Data.List.Perm.Basic
import Mathlib.Data.Set.List
import RealmRegistry.Proofs.Schema.Writable
import RealmRegistry.Proofs.Toml.Tree

namespace RealmRegistry.Schema

open RealmRegistry.Toml

/-! ### Arrays -/

@[simp] theorem tablesOf?_map (elements : List (List (String × Toml))) :
    tablesOf? (elements.map .table) = some elements := by
  induction elements with
  | nil => rfl
  | cons ms r ih => rw [List.map_cons, tablesOf?, ih]; rfl

/-- Values that can stand together in an array: all on a line, or all with headers. -/
def Alike (ts : List Toml) : Prop :=
  (∀ t ∈ ts, t.Plain) ∨ ∃ elements : List (List (String × Toml)), ts = elements.map .table

/-- Values on a line stay an array on a line, and tables become an array with headers. -/
theorem Alike.tomlArray_cases {ts : List Toml} (h : Alike ts) :
    (tomlArray ts = .list ts ∧ ∀ t ∈ ts, t.Plain) ∨
      ∃ elements, elements ≠ [] ∧ ts = elements.map .table ∧ tomlArray ts = .tables elements := by
  rcases h with hplain | ⟨elements, rfl⟩
  · cases ts with
    | nil => exact .inl ⟨rfl, hplain⟩
    | cons t r =>
      have ht := hplain t List.mem_cons_self
      cases t with
      | table ms => exact ht.elim
      | _ => exact .inl ⟨rfl, hplain⟩
  · cases elements with
    | nil => exact .inl ⟨rfl, fun t ht => absurd ht List.not_mem_nil⟩
    | cons ms r =>
      have htables := tablesOf?_map (ms :: r)
      refine .inr ⟨ms :: r, List.cons_ne_nil ms r, rfl, ?_⟩
      rw [List.map_cons] at htables ⊢
      simp only [tomlArray, htables]

theorem arranged_of_plain {t : Toml} (h : t.Plain) : arranged t = t := by
  cases t with
  | table ms => exact h.elim
  | tables l => exact h.elim
  | _ => rfl

theorem arrangedElements_eq_map (elements : List (List (String × Toml))) :
    (arrangedElements elements).map .table = (elements.map .table).map arranged := by
  induction elements with
  | nil => rfl
  | cons ms r ih => rw [arrangedElements, List.map_cons, ih]; rfl

section Array

variable {ts : List Toml}

theorem regular_tomlArray (hts : Alike ts) (h : ∀ t ∈ ts, t.Regular) : (tomlArray ts).Regular := by
  rcases hts.tomlArray_cases with ⟨harray, hplain⟩ | ⟨elements, hne, rfl, harray⟩
  · rw [harray]
    exact plainItems_iff.2 hplain
  · rw [harray]
    refine ⟨hne, regularElements_iff.2 fun ms hms => ?_⟩
    exact h (.table ms) (List.mem_map_of_mem hms)

/-- The elements of an array are read one by one. -/
theorem view_tomlArray (hts : Alike ts) :
    viewToml (tomlArray ts).arranged = .list (ts.map arranged) := by
  rcases hts.tomlArray_cases with ⟨harray, hplain⟩ | ⟨elements, -, rfl, harray⟩
  · have hmap : ts.map arranged = ts :=
      (List.map_congr_left fun t ht => arranged_of_plain (hplain t ht)).trans (List.map_id ts)
    rw [harray, hmap]
    rfl
  · rw [harray, arranged, viewToml, arrangedElements_eq_map]

theorem depth_tomlArray_le (hts : Alike ts) {n : Nat} (h : ∀ t ∈ ts, t.depth ≤ n) :
    (tomlArray ts).depth ≤ n + 1 := by
  rcases hts.tomlArray_cases with ⟨harray, -⟩ | ⟨elements, -, rfl, harray⟩
  · rw [harray, Toml.depth]
    exact Nat.succ_le_succ (itemsDepth_le_iff.2 h)
  · rw [harray, Toml.depth]
    refine Nat.succ_le_succ (elementsDepth_le_iff.2 fun ms hms => ?_)
    exact Nat.le_trans (Nat.le_succ _) (h (.table ms) (List.mem_map_of_mem hms))

end Array

/-! ### Shapes that tables can take -/

/-- Whether the values of a shape stand on a line. -/
def Shape.isLine : Shape → Bool
  | .list item => item.isLine
  | .dict _ => false
  | .record _ _ => false
  | _ => true

/-- Whether the values of a shape are tables. -/
def Shape.isTable : Shape → Bool
  | .dict _ => true
  | .record _ _ => true
  | _ => false

mutual

/-- Whether each list in a value holds either values on a line or tables. -/
def Shape.isTabular : Shape → Bool
  | .list item => item.isLine || item.isTable && item.isTabular
  | .dict item => item.isTabular
  | .record _ fields => fields.isTabular
  | _ => true

/-- The same for each field of a record. -/
def Layout.isTabular : Layout → Bool
  | .nil => true
  | .cons _ _ s rest => s.isTabular && rest.isTabular

end

theorem Shape.isTabular_item {item : Shape} (h : (Shape.list item).isTabular = true) :
    item.isTabular = true := by
  rw [Shape.isTabular, Bool.or_eq_true, Bool.and_eq_true] at h
  rcases h with hline | ⟨-, htabular⟩
  · cases item with
    | list item =>
      rw [Shape.isTabular, show item.isLine = true from hline]
      rfl
    | dict item => exact absurd hline Bool.false_ne_true
    | record title fields => exact absurd hline Bool.false_ne_true
    | _ => rfl
  · exact htabular

@[simp] theorem Layout.isTabular_cons {key : String} {p : Presence} {s : Shape} {rest : Layout} :
    (Layout.cons key p s rest).isTabular = true ↔ s.isTabular = true ∧ rest.isTabular = true := by
  rw [Layout.isTabular, Bool.and_eq_true]

theorem mem_writeAll {α β ε : Type} {f : α → Except ε β} {l : List α} {ts : List β}
    (h : writeAll f l = .ok ts) {t : β} (ht : t ∈ ts) : ∃ a ∈ l, f a = .ok t := by
  obtain ⟨hlength, hzip⟩ := List.forall₂_iff_zip.1 (writeAll_ok_iff.1 h)
  rw [← List.map_snd_zip (Nat.le_of_eq hlength.symm)] at ht
  obtain ⟨⟨a, t⟩, hm, rfl⟩ := List.mem_map.1 ht
  exact ⟨a, (List.of_mem_zip hm).1, hzip hm⟩

theorem Shape.plain_of_isLine : ∀ (s : Shape) (c : s.Carrier) {t : Toml}, s.isLine = true →
    s.toToml c = .ok t → t.Plain
  | .text, _, _, _, h => by
    cases h
    trivial
  | .flag, _, _, _, h => by
    cases h
    trivial
  | .word _, c, _, _, h => by
    obtain ⟨hlt, rfl⟩ := wordToToml_ok_iff.1 h
    exact ⟨Int.natCast_nonneg _, Int.ofNat_lt.2 hlt⟩
  | .choice _ _, _, _, _, h => by
    cases h
    trivial
  | .list item, c, t, hs, h => by
    obtain ⟨ts, hts, rfl⟩ := map_eq_ok.1 h
    have hplain : ∀ t ∈ ts, t.Plain := fun t ht => by
      obtain ⟨a, -, ha⟩ := mem_writeAll hts ht
      exact Shape.plain_of_isLine item a hs ha
    rcases Alike.tomlArray_cases (.inl hplain) with ⟨harray, -⟩ | ⟨elements, hne, rfl, -⟩
    · rw [harray]
      exact plainItems_iff.2 hplain
    · -- tables are not plain
      obtain ⟨ms, hms⟩ := List.exists_mem_of_ne_nil elements hne
      exact (hplain (.table ms) (List.mem_map_of_mem hms)).elim
  | .dict _, _, _, hs, _ => absurd hs Bool.false_ne_true
  | .record _ _, _, _, hs, _ => absurd hs Bool.false_ne_true

theorem Shape.exists_table {s : Shape} (hs : s.isTable = true) {c : s.Carrier} {t : Toml}
    (h : s.toToml c = .ok t) : ∃ ms, t = .table ms := by
  cases s with
  | dict item =>
    obtain ⟨ms, -, rfl⟩ := map_eq_ok.1 h
    exact ⟨ms, rfl⟩
  | record title fields =>
    obtain ⟨ms, -, rfl⟩ := map_eq_ok.1 h
    exact ⟨ms, rfl⟩
  | _ => exact absurd hs Bool.false_ne_true

/-- What is written of the elements of a list can stand together in an array. -/
theorem alike_writeAll {item : Shape} (hs : (Shape.list item).isTabular = true)
    {l : List item.Carrier} {ts : List Toml} (h : writeAll item.toToml l = .ok ts) : Alike ts := by
  rw [Shape.isTabular, Bool.or_eq_true, Bool.and_eq_true] at hs
  rcases hs with hline | ⟨htable, -⟩
  · -- which of both it is follows from the shape, not from the elements
    refine .inl fun t ht => ?_
    obtain ⟨a, -, ha⟩ := mem_writeAll h ht
    exact Shape.plain_of_isLine item a hline ha
  · have htables : ∀ t ∈ ts, ∃ ms, Toml.table ms = t := fun t ht => by
      obtain ⟨a, -, ha⟩ := mem_writeAll h ht
      obtain ⟨ms, rfl⟩ := Shape.exists_table htable ha
      exact ⟨ms, rfl⟩
    obtain ⟨elements, rfl⟩ : ts ∈ Set.range (List.map Toml.table) :=
      Set.range_list_map Toml.table ▸ htables
    exact .inr ⟨elements, rfl⟩

/-! ### Members -/

/-- The members that are written of a dictionary. -/
theorem writeAll_entries {item : Shape} {es : List (String × item.Carrier)}
    {ms : List (String × Toml)}
    (h : writeAll (fun e => (item.toToml e.2).map fun t => (e.1, t)) es = .ok ms) :
    List.Forall₂ (fun e m => m.1 = e.1 ∧ item.toToml e.2 = .ok m.2) es ms := by
  refine (writeAll_ok_iff.1 h).imp fun e m hm => ?_
  obtain ⟨t, ht, rfl⟩ := map_eq_ok.1 hm
  exact ⟨rfl, ht⟩

theorem map_fst_of_forall₂ {α β : Type} {R : String × α → String × β → Prop}
    {es : List (String × α)} {ms : List (String × β)}
    (h : List.Forall₂ (fun e m => m.1 = e.1 ∧ R e m) es ms) :
    ms.map Prod.fst = es.map Prod.fst := by
  induction h with
  | nil => rfl
  | cons hm _ ih => rw [List.map_cons, List.map_cons, hm.1, ih]

theorem Layout.keys_toTomlMembers : ∀ (fields : Layout) (c : fields.Carrier)
    {ms : List (String × Toml)}, fields.toTomlMembers c = .ok ms →
    ms.map Prod.fst = (fields.toMembers c).map Prod.fst
  | .nil, _, _, h => by
    cases h
    rfl
  | .cons key p s rest, (v, more), ms, h => by
    rw [Layout.toMembers]
    rcases Layout.toTomlMembers_cons_ok.1 h with ⟨hwritten, hr⟩ | ⟨w, t, r, hwritten, -, hr, rfl⟩
    · rw [hwritten]
      exact Layout.keys_toTomlMembers rest more hr
    · rw [hwritten]
      exact congrArg (key :: ·) (Layout.keys_toTomlMembers rest more hr)

/-- The members of a table, as they are read. -/
theorem view_table (ms : List (String × Toml)) : ∃ read,
    viewToml (Toml.table ms).arranged = .table read ∧
      read.Perm (ms.map fun m => (m.1, m.2.arranged)) :=
  ⟨_, rfl, arranged_members_perm ms⟩

/-! ### What is written -/

mutual

/-- What is written of a tabular shape can be told from its lines. -/
theorem Shape.regular_toToml : ∀ (s : Shape) (c : s.Carrier) {t : Toml}, s.isSound = true →
    s.isTabular = true → s.toToml c = .ok t → t.Regular
  | .text, _, _, _, _, h => by
    cases h
    trivial
  | .flag, _, _, _, _, h => by
    cases h
    trivial
  | .word width, c, _, _, _, h => by
    have hplain := Shape.plain_of_isLine (.word width) c rfl h
    obtain ⟨-, rfl⟩ := wordToToml_ok_iff.1 h
    exact hplain
  | .choice _ _, _, _, _, _, h => by
    cases h
    trivial
  | .list item, c, t, hs, ht, h => by
    obtain ⟨ts, hts, rfl⟩ := map_eq_ok.1 h
    refine regular_tomlArray (alike_writeAll ht hts) fun t hmem => ?_
    obtain ⟨a, -, ha⟩ := mem_writeAll hts hmem
    exact Shape.regular_toToml item a hs (Shape.isTabular_item ht) ha
  | .dict item, c, t, hs, ht, h => by
    obtain ⟨ms, hms, rfl⟩ := map_eq_ok.1 h
    refine ⟨map_fst_of_forall₂ (writeAll_entries hms) ▸ c.nodup_keys,
      regularMembers_iff.2 fun m hm => ?_⟩
    obtain ⟨e, -, he⟩ := mem_writeAll hms hm
    obtain ⟨t, ht', rfl⟩ := map_eq_ok.1 he
    exact Shape.regular_toToml item e.2 hs ht ht'
  | .record _ fields, c, t, hs, ht, h => by
    obtain ⟨ms, hms, rfl⟩ := map_eq_ok.1 h
    exact ⟨Layout.keys_toTomlMembers fields c hms ▸ Layout.nodup_keys_toMembers fields c hs,
      Layout.regular_toTomlMembers fields c hs ht hms⟩

theorem Layout.regular_toTomlMembers : ∀ (fields : Layout) (c : fields.Carrier)
    {ms : List (String × Toml)}, fields.isSound = true → fields.isTabular = true →
    fields.toTomlMembers c = .ok ms → RegularMembers ms
  | .nil, _, _, _, _, h => by
    cases h
    trivial
  | .cons key p s rest, (v, more), ms, hs, ht, h => by
    obtain ⟨-, hshape, hrest⟩ := Layout.isSound_cons.1 hs
    obtain ⟨htshape, htrest⟩ := Layout.isTabular_cons.1 ht
    rcases Layout.toTomlMembers_cons_ok.1 h with ⟨-, hr⟩ | ⟨w, t, r, -, hw, hr, rfl⟩
    · exact Layout.regular_toTomlMembers rest more hrest htrest hr
    · exact ⟨Shape.regular_toToml s w hshape htshape hw,
        Layout.regular_toTomlMembers rest more hrest htrest hr⟩

end

mutual

theorem Shape.depth_toToml_le : ∀ (s : Shape) (c : s.Carrier) {t : Toml}, s.isTabular = true →
    s.toToml c = .ok t → t.depth ≤ s.depth
  | .text, _, _, _, h => by
    cases h
    exact Nat.le_refl _
  | .flag, _, _, _, h => by
    cases h
    exact Nat.le_refl _
  | .word _, _, _, _, h => by
    obtain ⟨-, rfl⟩ := wordToToml_ok_iff.1 h
    exact Nat.le_refl _
  | .choice _ _, _, _, _, h => by
    cases h
    exact Nat.le_refl _
  | .list item, c, t, ht, h => by
    obtain ⟨ts, hts, rfl⟩ := map_eq_ok.1 h
    refine depth_tomlArray_le (alike_writeAll ht hts) fun t hmem => ?_
    obtain ⟨a, -, ha⟩ := mem_writeAll hts hmem
    exact Shape.depth_toToml_le item a (Shape.isTabular_item ht) ha
  | .dict item, c, t, ht, h => by
    obtain ⟨ms, hms, rfl⟩ := map_eq_ok.1 h
    refine Nat.succ_le_succ (membersDepth_le_iff.2 fun m hm => ?_)
    obtain ⟨e, -, he⟩ := mem_writeAll hms hm
    obtain ⟨t, ht', rfl⟩ := map_eq_ok.1 he
    exact Shape.depth_toToml_le item e.2 ht ht'
  | .record _ fields, c, t, ht, h => by
    obtain ⟨ms, hms, rfl⟩ := map_eq_ok.1 h
    exact Nat.succ_le_succ (Layout.depth_toTomlMembers_le fields c ht hms)

theorem Layout.depth_toTomlMembers_le : ∀ (fields : Layout) (c : fields.Carrier)
    {ms : List (String × Toml)}, fields.isTabular = true → fields.toTomlMembers c = .ok ms →
    membersDepth ms ≤ fields.depth
  | .nil, _, _, _, h => by
    cases h
    exact Nat.le_refl _
  | .cons key p s rest, (v, more), ms, ht, h => by
    obtain ⟨hshape, hrest⟩ := Layout.isTabular_cons.1 ht
    rw [Layout.depth]
    rcases Layout.toTomlMembers_cons_ok.1 h with ⟨-, hr⟩ | ⟨w, t, r, -, hw, hr, rfl⟩
    · exact Nat.le_trans (Layout.depth_toTomlMembers_le rest more hrest hr) (Nat.le_max_right _ _)
    · have hfirst := Shape.depth_toToml_le s w hshape hw
      have hmore := Layout.depth_toTomlMembers_le rest more hrest hr
      rw [membersDepth]
      omega

end

mutual

/-- What is written of a value shows it, though it is read with the entries of each table first. -/
theorem Shape.shows_toToml : ∀ (s : Shape) (c : s.Carrier) {t : Toml}, s.isSound = true →
    s.isTabular = true → s.toToml c = .ok t → s.Shows c t.arranged
  | .text, _, _, _, _, h => by
    cases h
    rfl
  | .flag, _, _, _, _, h => by
    cases h
    rfl
  | .word _, _, _, _, _, h => by
    obtain ⟨-, rfl⟩ := wordToToml_ok_iff.1 h
    rfl
  | .choice first others, c, _, _, _, h => by
    cases h
    rw [arranged]
    · exact ⟨by simp [Document.view, viewToml], rfl⟩
    · simp
    · simp
  | .list item, c, t, hs, ht, h => by
    obtain ⟨ts, hts, rfl⟩ := map_eq_ok.1 h
    refine ⟨_, view_tomlArray (alike_writeAll ht hts), List.forall₂_map_right_iff.2 ?_⟩
    exact (writeAll_ok_iff.1 hts).imp fun a t ha =>
      Shape.shows_toToml item a hs (Shape.isTabular_item ht) ha
  | .dict item, c, t, hs, ht, h => by
    obtain ⟨ms, hms, rfl⟩ := map_eq_ok.1 h
    -- reading moves the members, and the entries that they show move along
    obtain ⟨read, hview, hperm⟩ := view_table ms
    have hall : List.Forall₂ (fun m (e : String × item.Carrier) => m.1 = e.1 ∧ item.Shows e.2 m.2)
        (ms.map fun m => (m.1, m.2.arranged)) c.entries :=
      List.forall₂_map_left_iff.2 ((writeAll_entries hms).flip.imp fun m e he =>
        ⟨he.1, Shape.shows_toToml item e.2 hs ht he.2⟩)
    obtain ⟨es, hread, hes⟩ := List.perm_comp_forall₂ hperm hall
    exact ⟨read, es, hview, hes, hread.flip⟩
  | .record title fields, c, t, hs, ht, h => by
    obtain ⟨ms, hms, rfl⟩ := map_eq_ok.1 h
    obtain ⟨read, hview, hperm⟩ := view_table ms
    have hkeys : (ms.map fun m => (m.1, m.2.arranged)).map Prod.fst =
        (fields.toMembers c).map Prod.fst :=
      List.map_map.trans (Layout.keys_toTomlMembers fields c hms)
    refine ⟨read, hview, hkeys ▸ hperm.map Prod.fst, fun m hm => ?_⟩
    obtain ⟨m', hm', rfl⟩ := List.mem_map.1 (hperm.mem_iff.1 hm)
    exact Layout.showsMember_toTomlMembers fields c hs ht hms hm'

theorem Layout.showsMember_toTomlMembers : ∀ (fields : Layout) (c : fields.Carrier)
    {ms : List (String × Toml)}, fields.isSound = true → fields.isTabular = true →
    fields.toTomlMembers c = .ok ms → ∀ {m : String × Toml}, m ∈ ms →
    fields.ShowsMember c m.1 m.2.arranged
  | .nil, _, _, _, _, h, m, hm => by
    cases h
    exact absurd hm List.not_mem_nil
  | .cons key p s rest, (v, more), ms, hs, ht, h, m, hm => by
    obtain ⟨-, hshape, hrest⟩ := Layout.isSound_cons.1 hs
    obtain ⟨htshape, htrest⟩ := Layout.isTabular_cons.1 ht
    rcases Layout.toTomlMembers_cons_ok.1 h with ⟨-, hr⟩ | ⟨w, t, r, hwritten, hw, hr, rfl⟩
    · exact .inr (Layout.showsMember_toTomlMembers rest more hrest htrest hr hm)
    · rcases List.mem_cons.1 hm with rfl | hm
      · exact .inl ⟨w, hwritten, rfl, Shape.shows_toToml s w hshape htshape hw⟩
      · exact .inr (Layout.showsMember_toTomlMembers rest more hrest htrest hr hm)

end

/-! ### Texts -/

/-- A record is read back from the text that is written of it, if there is one. -/
theorem fromToml_toToml {α : Type} [Shaped α] [Recoverable α]
    (htable : (Shaped.shape α).isTable = true) (ht : (Shaped.shape α).isTabular = true)
    (hdepth : (Shaped.shape α).depth ≤ Toml.maxDepth + 1) {a : α} {text : String}
    (h : toToml a = .ok text) : fromToml α text = .ok a := by
  have hsound := Recoverable.sound (α := α)
  obtain ⟨t, htext, rfl⟩ := map_eq_ok.1 h
  have hregular := Shape.regular_toToml _ _ hsound ht htext
  have hle := Nat.le_trans (Shape.depth_toToml_le _ _ ht htext) hdepth
  have hshows := Shape.shows_toToml _ _ hsound ht htext
  obtain ⟨ms, rfl⟩ := Shape.exists_table htable htext
  have hparse := parse_lines hregular (Nat.le_of_succ_le_succ hle)
  have hread : ofDocument α (Toml.table ms).arranged = .ok a := by
    show ((Shaped.shape α).ofDocument _).map Shaped.unpack = _
    rw [Shape.ofDocument_of_shows _ _ hsound (Recoverable.settled a) hshows]
    exact congrArg _ (Shaped.unpack_pack a)
  rw [arranged] at hread
  rw [fromToml, tomlText, String.toList_ofList, hparse]
  simp only [hread]
  rfl

end RealmRegistry.Schema
