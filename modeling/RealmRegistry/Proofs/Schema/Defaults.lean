/-
Leaving out standard values.

A field with a standard value may be left out of a document, and a section may be left out as a
whole, be an empty table, or have some of its fields.  Whatever is left out, the same value is read:
what is absent and what is written stand for the same standard value (`Shape.Stands`), and the rest
of the document has no say in it.

* `Shape.Stands` — what a document may have in the place of a standard value;
* `Shape.Omits` — a document, and the same one with some standard values left out;
* `Shape.ofDocument_omits` — the same is read from both;
* `fromToml_omits`, `fromText_omits` — and from the texts of both.
-/
import RealmRegistry.Proofs.Schema.Straight
import RealmRegistry.Schema.Toml

namespace RealmRegistry.Schema

variable {V : Type} [Document V]

/-! ### Standard values -/

mutual

/-- A document has a standard value: it is read as that, shows it, or is a table with some of the
standard values in it. -/
def Shape.Stands : (s : Shape) → Standard → V → Prop
  | .record title fields, value, u =>
    (Shape.record title fields).ofDocument u = .ok ((Shape.record title fields).standard value) ∨
      (Shape.record title fields).Shows ((Shape.record title fields).standard value) u ∨
      ∃ ms, Document.view u = .table ms ∧ fields.StandsIn ms
  | s, value, u => s.ofDocument u = .ok (s.standard value) ∨ s.Shows (s.standard value) u

/-- A table has some of the standard values of a record, and may have members of other keys. -/
def Layout.StandsIn : Layout → List (String × V) → Prop
  | .nil, _ => True
  | .cons key p s rest, ms =>
    ((valuesAt key ms = [] ∧ p ≠ .required) ∨
      ∃ value whenEmpty u, p = .defaulted value whenEmpty ∧ valuesAt key ms = [u] ∧
        s.Stands value u) ∧ rest.StandsIn ms

end

mutual

/-- Nothing is in the retired fields of a standard value. -/
theorem Shape.settled_standard : ∀ (s : Shape) (value : Standard), s.Settled (s.standard value)
  | .text, _ => trivial
  | .flag, _ => trivial
  | .word _, _ => trivial
  | .choice _ _, _ => trivial
  | .list _, _ => nofun
  | .dict _, _ => nofun
  | .record _ fields, _ => Layout.settled_standard fields

theorem Layout.settled_standard : ∀ fields : Layout, fields.Settled fields.standard
  | .nil => trivial
  | .cons _ .required s rest => ⟨Shape.settled_standard s .bare, Layout.settled_standard rest⟩
  | .cons _ .optional _ rest => ⟨nofun, Layout.settled_standard rest⟩
  | .cons _ .retired _ rest => ⟨rfl, Layout.settled_standard rest⟩
  | .cons _ (.defaulted v _) s rest => ⟨Shape.settled_standard s v, Layout.settled_standard rest⟩

end

mutual

/-- What stands for a standard value is read as that. -/
theorem Shape.ofDocument_of_stands : ∀ {s : Shape} {value : Standard} {u : V}, s.isSound = true →
    s.Stands value u → s.ofDocument u = .ok (s.standard value)
  | .record title fields, value, u, hsound, h => by
    rcases h with hread | hshows | ⟨ms, hview, hms⟩
    · exact hread
    · -- nothing retired is in a standard value, so it is read wherever it shows
      exact Shape.ofDocument_of_shows _ _ hsound (Shape.settled_standard _ value) hshows
    · exact (Shape.ofDocument_iff_receives hsound hview).2 (Layout.receives_standard hsound hms)
  | .text, value, u, hsound, h | .flag, value, u, hsound, h | .word _, value, u, hsound, h
  | .choice _ _, value, u, hsound, h | .list _, value, u, hsound, h
  | .dict _, value, u, hsound, h =>
    h.elim id (Shape.ofDocument_of_shows _ _ hsound (Shape.settled_standard _ value))

/-- The fields of a record have their standard values where a table has some of these. -/
theorem Layout.receives_standard : ∀ {fields : Layout} {ms : List (String × V)},
    fields.isSound = true → fields.StandsIn ms → fields.Receives ms fields.standard
  | .nil, _, _, _ => trivial
  | .cons key p s rest, ms, hsound, ⟨hfirst, hmore⟩ => by
    obtain ⟨-, hshape, hrest⟩ := Layout.isSound_cons.1 hsound
    have hreceives := Layout.receives_standard hrest hmore
    rcases hfirst with ⟨hnone, hp⟩ | ⟨value, whenEmpty, u, rfl, hone, hu⟩
    · -- nothing is at the key, and the field has its standard value from the layout
      cases p with
      | required => exact absurd rfl hp
      | _ =>
        refine ⟨?_, hreceives⟩
        rw [hnone]
        rfl
    · refine ⟨?_, hreceives⟩
      rw [hone]
      exact Shape.ofDocument_of_stands hshape hu

end

/-! ### Sections -/

/-- Whether every field may be left out. -/
def Layout.mayBeEmpty : Layout → Bool
  | .nil => true
  | .cons _ p _ rest => decide (p ≠ .required) && rest.mayBeEmpty

/-- Whether a shape is a record every field of which may be left out. -/
def Shape.isSection : Shape → Bool
  | .record _ fields => fields.mayBeEmpty
  | _ => false

theorem Layout.standsIn_nil : ∀ {fields : Layout}, fields.mayBeEmpty = true →
    fields.StandsIn ([] : List (String × V))
  | .nil, _ => trivial
  | .cons _ p _ rest, h => by
    rw [mayBeEmpty, Bool.and_eq_true, decide_eq_true_eq] at h
    exact ⟨.inl ⟨rfl, h.1⟩, standsIn_nil h.2⟩

/-- An empty table stands for a section. -/
theorem Shape.stands_of_empty {s : Shape} {value : Standard} {u : V} (hs : s.isSection = true)
    (hview : Document.view u = .table []) : s.Stands value u := by
  cases s with
  | record title fields => exact .inr (.inr ⟨[], hview, Layout.standsIn_nil hs⟩)
  | _ => exact absurd hs Bool.false_ne_true

mutual

/-- The places in a document where a standard value may be left out, each with what is written of
the value.  The elements of a list have the place of the list. -/
def Shape.places : Shape → List (List String × Json)
  | .list item => item.places
  | .dict item => item.places
  | .record _ fields => fields.places
  | _ => []

/-- The places within the fields of a record. -/
def Layout.places : Layout → List (List String × Json)
  | .nil => []
  | .cons key p s rest =>
    let own := match p with
      | .defaulted value _ => [([key], s.toJson (s.standard value))]
      | _ => []
    own ++ s.places.map (fun d => (key :: d.1, d.2)) ++ rest.places

end

/-! ### Documents that leave them out -/

/-- The values at the key of a field, of which a standard one may be left out. -/
def Presence.Omits (p : Presence) (s : Shape) (us ws : List V) : Prop :=
  ∃ value whenEmpty u, p = .defaulted value whenEmpty ∧ us = [u] ∧ ws = [] ∧ s.Stands value u

/-- Elements that a record which is given as a list need not have. -/
def Layout.StandsAtEnd : Layout → List V → Prop
  | _, [] => True
  | .nil, _ :: _ => False
  | .cons _ p s rest, v :: vs =>
    (∃ value whenEmpty, p = .defaulted value whenEmpty ∧ s.Stands value v) ∧ rest.StandsAtEnd vs

mutual

/-- A document, and the same one with some standard values left out, anywhere in it. -/
def Shape.Omits : (s : Shape) → V → V → Prop
  | .list item, v, w =>
    v = w ∨ ∃ vs ws, Document.view v = .list vs ∧ Document.view w = .list ws ∧
      List.Forall₂ item.Omits vs ws
  | .dict item, v, w =>
    v = w ∨ ∃ ms ns, Document.view v = .table ms ∧ Document.view w = .table ns ∧
      List.Forall₂ (fun m n => m.1 = n.1 ∧ item.Omits m.2 n.2) ms ns
  | .record _ fields, v, w =>
    v = w ∨
      (∃ ms ns, Document.view v = .table ms ∧ Document.view w = .table ns ∧
        fields.OmitsMembers ms ns) ∨
      ∃ vs ws, Document.view v = .list vs ∧ Document.view w = .list ws ∧ fields.OmitsItems vs ws
  | _, v, w => v = w

/-- The members of a record; what has the key of no field does not count, nor does the order. -/
def Layout.OmitsMembers : Layout → List (String × V) → List (String × V) → Prop
  | .nil, _, _ => True
  | .cons key p s rest, ms, ns =>
    (List.Forall₂ s.Omits (valuesAt key ms) (valuesAt key ns) ∨
      p.Omits s (valuesAt key ms) (valuesAt key ns)) ∧ rest.OmitsMembers ms ns

/-- The elements of a record that is given as a list, the last of which may be left out. -/
def Layout.OmitsItems : Layout → List V → List V → Prop
  | .nil, vs, ws => vs.length = ws.length
  | .cons _ _ s rest, v :: vs, w :: ws => s.Omits v w ∧ rest.OmitsItems vs ws
  | fields, vs, [] => fields.StandsAtEnd vs
  | .cons _ _ _ _, [], _ :: _ => False

end

/-- A list is not too long for a record with as many fields. -/
def HasRoom (V : Type) [Document V] : Prop :=
  ∀ count length, length ≤ count → Document.surplus V count length = .ok ()

section Lists

variable {α : Type} {item : V → Except Mismatch α}

/-- The same is read from two documents, if anything is. -/
def ReadAlike {α : Type} (item : V → Except Mismatch α) (v w : V) : Prop :=
  ∀ a, item v = .ok a ↔ item w = .ok a

omit [Document V] in
theorem readAll_alike {vs ws : List V} (h : List.Forall₂ (ReadAlike item) vs ws) (as : List α) :
    readAll item vs = .ok as ↔ readAll item ws = .ok as := by
  induction h generalizing as with
  | nil => exact Iff.rfl
  | @cons v w vs ws hv _ ih =>
    -- complaints may differ, so it is results that are compared, one value after the other
    cases as with
    | nil => simp
    | cons a as =>
      simp only [readAll_cons_iff, List.cons.injEq]
      constructor
      · rintro ⟨_, _, ⟨rfl, rfl⟩, hread, hmore⟩
        exact ⟨w, ws, ⟨rfl, rfl⟩, (hv a).1 hread, (ih as).1 hmore⟩
      · rintro ⟨_, _, ⟨rfl, rfl⟩, hread, hmore⟩
        exact ⟨v, vs, ⟨rfl, rfl⟩, (hv a).2 hread, (ih as).2 hmore⟩

omit [Document V] in
theorem readEntries_alike {ms ns : List (String × V)}
    (h : List.Forall₂ (fun m n => m.1 = n.1 ∧ ReadAlike item m.2 n.2) ms ns) (d e : Dict α) :
    readEntries item d ms = .ok e ↔ readEntries item d ns = .ok e := by
  induction h generalizing d with
  | nil => exact Iff.rfl
  | @cons m n ms ns hm _ ih =>
    obtain ⟨k, v⟩ := m
    obtain ⟨_, w⟩ := n
    obtain ⟨rfl, hread⟩ := hm
    rw [readEntries, readEntries]
    cases hv : item v with
    | ok a =>
      rw [(hread a).1 hv]
      exact ih (d.insert k a)
    | error m =>
      -- then the other one is not read either, though perhaps for another reason
      cases hw : item w with
      | ok a => cases hv.symm.trans ((hread a).2 hw)
      | error m' => constructor <;> intro h <;> cases h

end Lists

section Fields

variable {s : Shape} {v w : V}

/-- What leaves something out is not null. -/
theorem Shape.Omits.eq_or_ne_null (h : s.Omits v w) :
    v = w ∨ Document.view v ≠ .null ∧ Document.view w ≠ .null := by
  cases s with
  | list item =>
    rcases h with rfl | ⟨vs, ws, hv, hw, -⟩
    · exact .inl rfl
    · exact .inr (by simp [hv, hw])
  | dict item =>
    rcases h with rfl | ⟨ms, ns, hv, hw, -⟩
    · exact .inl rfl
    · exact .inr (by simp [hv, hw])
  | record title fields =>
    rcases h with rfl | ⟨ms, ns, hv, hw, -⟩ | ⟨vs, ws, hv, hw, -⟩
    · exact .inl rfl
    · exact .inr (by simp [hv, hw])
    · exact .inr (by simp [hv, hw])
  | _ => exact .inl h

theorem Presence.readAlike_of_omits (p : Presence) (h : s.Omits v w)
    (hread : ReadAlike s.ofDocument v w) : ReadAlike (p.ofDocument s.ofDocument) v w := by
  have hoptional : ReadAlike (Presence.ofDocument.optional s.ofDocument) v w := by
    intro a
    -- null would be no value at all, but nothing can be left out of it
    rcases h.eq_or_ne_null with rfl | ⟨hv, hw⟩
    · exact Iff.rfl
    · rw [Presence.optional_of_view hv, Presence.optional_of_view hw, map_eq_ok, map_eq_ok]
      exact exists_congr fun b => and_congr_left fun _ => hread b
  cases p with
  | required => exact hread
  | optional => exact hoptional
  | retired => exact hoptional
  | defaulted _ _ => exact hread

/-- The same is read for a field from values that are read alike, -/
theorem Presence.receives_congr {p : Presence} {us ws : List V}
    (h : List.Forall₂ (ReadAlike (p.ofDocument s.ofDocument)) us ws) (a : p.Slot s.Carrier) :
    p.Receives s us a ↔ p.Receives s ws a := by
  cases h with
  | nil => exact Iff.rfl
  | cons hu hrest =>
    cases hrest with
    | nil => exact hu a
    | cons _ _ => exact Iff.rfl

/-- and from a standard value that is left out. -/
theorem Presence.receives_of_omits {p : Presence} (hsound : s.isSound = true) {us ws : List V}
    (h : p.Omits s us ws) (a : p.Slot s.Carrier) : p.Receives s us a ↔ p.Receives s ws a := by
  obtain ⟨value, whenEmpty, u, rfl, rfl, rfl, hu⟩ := h
  have hread : s.ofDocument u = .ok (s.standard value) := Shape.ofDocument_of_stands hsound hu
  show s.ofDocument u = .ok a ↔ some (s.standard value) = some a
  rw [hread, Except.ok.injEq, Option.some_inj]

end Fields

/-! ### Records given as lists -/

section Items

variable {expected : String}

theorem Layout.length_of_standsAtEnd : ∀ {fields : Layout} {vs : List V}, fields.StandsAtEnd vs →
    vs.length ≤ fields.length
  | _, [], _ => Nat.zero_le _
  | .cons _ _ _ _, _ :: _, h => Nat.succ_le_succ (length_of_standsAtEnd h.2)

/-- Either as many elements are there, or none is left over. -/
theorem Layout.length_of_omitsItems : ∀ {fields : Layout} {vs ws : List V},
    fields.OmitsItems vs ws →
    vs.length = ws.length ∨ vs.length ≤ fields.length ∧ ws.length ≤ fields.length
  | .nil, _, _, h => .inl h
  | .cons _ _ _ _, _ :: _, _ :: _, h => by
    rcases length_of_omitsItems h.2 with heq | ⟨hv, hw⟩
    · exact .inl (congrArg (· + 1) heq)
    · exact .inr ⟨Nat.succ_le_succ hv, Nat.succ_le_succ hw⟩
  | .cons _ _ _ _, [], [], _ => .inl rfl
  | .cons _ _ _ _, _ :: _, [], h => .inr ⟨length_of_standsAtEnd h, Nat.zero_le _⟩

theorem Layout.surplus_congr (hroom : HasRoom V) {fields : Layout} {vs ws : List V}
    (h : fields.OmitsItems vs ws) :
    Document.surplus V fields.length vs.length = Document.surplus V fields.length ws.length := by
  rcases length_of_omitsItems h with heq | ⟨hv, hw⟩
  · rw [heq]
  · rw [hroom _ _ hv, hroom _ _ hw]

/-- Elements that stand for standard values need not be there. -/
theorem Layout.ofItems_of_standsAtEnd : ∀ {fields : Layout} {vs : List V} {index : Nat},
    fields.isSound = true → fields.StandsAtEnd vs → ∀ c,
      (fields.ofItems expected index vs = .ok c ↔
        fields.ofItems expected index ([] : List V) = .ok c)
  | _, [], _, _, _, _ => Iff.rfl
  | .cons key p s rest, v :: vs, index, hsound, ⟨⟨value, whenEmpty, hp, hv⟩, hvs⟩, (a, more) => by
    obtain ⟨-, hshape, hrest⟩ := Layout.isSound_cons.1 hsound
    subst hp
    have hread : s.ofDocument v = .ok (s.standard value) := Shape.ofDocument_of_stands hshape hv
    rw [Layout.ofItems_cons_iff, Layout.ofItems_nil_iff, ofItems_of_standsAtEnd hrest hvs]
    show s.ofDocument v = .ok a ∧ _ ↔ some (s.standard value) = some a ∧ _
    rw [hread, Except.ok.injEq, Option.some_inj]

end Items

/-! ### Reading both -/

mutual

/-- Whatever standard values are left out, the same is read. -/
theorem Shape.ofDocument_omits (hroom : HasRoom V) : ∀ {s : Shape} {v w : V}, s.isSound = true →
    s.Omits v w → ReadAlike s.ofDocument v w
  | .list item, v, w, hsound, h, as => by
    rcases h with rfl | ⟨vs, ws, hv, hw, hall⟩
    · exact Iff.rfl
    · have hitem : item.isSound = true := hsound
      have hitems : List.Forall₂ (ReadAlike item.ofDocument) vs ws :=
        hall.imp fun _ _ homits => Shape.ofDocument_omits hroom hitem homits
      have hread := readAll_alike hitems as
      rw [Shape.ofDocument_list_iff, Shape.ofDocument_list_iff, hv, hw]
      constructor
      · rintro ⟨_, ⟨⟩, h⟩
        exact ⟨ws, rfl, hread.1 h⟩
      · rintro ⟨_, ⟨⟩, h⟩
        exact ⟨vs, rfl, hread.2 h⟩
  | .dict item, v, w, hsound, h, d => by
    rcases h with rfl | ⟨ms, ns, hv, hw, hall⟩
    · exact Iff.rfl
    · have hitem : item.isSound = true := hsound
      have hentries :
          List.Forall₂ (fun m n => m.1 = n.1 ∧ ReadAlike item.ofDocument m.2 n.2) ms ns :=
        hall.imp fun _ _ homits => ⟨homits.1, Shape.ofDocument_omits hroom hitem homits.2⟩
      have hread := readEntries_alike hentries Dict.empty d
      rw [Shape.ofDocument_dict_iff, Shape.ofDocument_dict_iff, hv, hw]
      constructor
      · rintro ⟨_, ⟨⟩, h⟩
        exact ⟨ns, rfl, hread.1 h⟩
      · rintro ⟨_, ⟨⟩, h⟩
        exact ⟨ms, rfl, hread.2 h⟩
  | .record title fields, v, w, hsound, h, c => by
    rcases h with rfl | ⟨ms, ns, hv, hw, hmembers⟩ | ⟨vs, ws, hv, hw, hitems⟩
    · exact Iff.rfl
    · rw [Shape.ofDocument_iff_receives hsound hv, Shape.ofDocument_iff_receives hsound hw]
      exact Layout.receives_omits hroom hsound hmembers c
    · -- given as a list, it must not be longer than the fields either
      have hread := Layout.ofItems_omits hroom (expectedLength title fields) 0 hsound hitems c
      have hsurplus := Layout.surplus_congr hroom hitems
      rw [Shape.ofDocument_record_iff, Shape.ofDocument_record_iff, hv, hw]
      constructor
      · rintro (⟨_, _, hview, -⟩ | ⟨_, ⟨⟩, h, hlength⟩)
        · cases hview
        · exact .inr ⟨ws, rfl, hread.1 h, hsurplus ▸ hlength⟩
      · rintro (⟨_, _, hview, -⟩ | ⟨_, ⟨⟩, h, hlength⟩)
        · cases hview
        · exact .inr ⟨vs, rfl, hread.2 h, hsurplus.trans hlength⟩
  | .text, _, _, _, h, _ | .flag, _, _, _, h, _ | .word _, _, _, _, h, _
  | .choice _ _, _, _, _, h, _ => by
    obtain rfl := h
    exact Iff.rfl

theorem Layout.receives_omits (hroom : HasRoom V) : ∀ {fields : Layout}
    {ms ns : List (String × V)}, fields.isSound = true → fields.OmitsMembers ms ns → ∀ c,
      (fields.Receives ms c ↔ fields.Receives ns c)
  | .nil, _, _, _, _, _ => Iff.rfl
  | .cons key p s rest, ms, ns, hsound, ⟨hfirst, hmore⟩, (a, more) => by
    obtain ⟨-, hshape, hrest⟩ := Layout.isSound_cons.1 hsound
    refine and_congr ?_ (Layout.receives_omits hroom hrest hmore more)
    -- something is left out within the value of the field, or the value itself
    rcases hfirst with hall | homits
    · refine Presence.receives_congr (hall.imp fun u x hu => ?_) a
      exact p.readAlike_of_omits hu (Shape.ofDocument_omits hroom hshape hu)
    · exact Presence.receives_of_omits hshape homits a

theorem Layout.ofItems_omits (hroom : HasRoom V) (expected : String) (index : Nat) :
    ∀ {fields : Layout} {vs ws : List V}, fields.isSound = true → fields.OmitsItems vs ws → ∀ c,
      (fields.ofItems expected index vs = .ok c ↔ fields.ofItems expected index ws = .ok c)
  | .nil, _, _, _, _, _ => Iff.rfl
  | .cons key p s rest, v :: vs, w :: ws, hsound, ⟨hfirst, hmore⟩, (a, more) => by
    obtain ⟨-, hshape, hrest⟩ := Layout.isSound_cons.1 hsound
    have hread := p.readAlike_of_omits hfirst (Shape.ofDocument_omits hroom hshape hfirst)
    rw [Layout.ofItems_cons_iff, Layout.ofItems_cons_iff, hread a,
      Layout.ofItems_omits hroom expected (index + 1) hrest hmore]
  | .cons _ _ _ _, [], [], _, _, _ => Iff.rfl
  | .cons _ _ _ _, _ :: _, [], hsound, h, c => Layout.ofItems_of_standsAtEnd hsound h c

end

/-! ### Texts -/

section Texts

variable {α : Type} [Shaped α] {text full brief : String} {a : α}

theorem ofDocument_omits (hroom : HasRoom V) (hsound : (Shaped.shape α).isSound = true) {v w : V}
    (h : (Shaped.shape α).Omits v w) : ReadAlike (ofDocument α) v w := by
  intro a
  rw [ofDocument, ofDocument, map_eq_ok, map_eq_ok]
  exact exists_congr fun c => and_congr_left fun _ => Shape.ofDocument_omits hroom hsound h c

theorem fromToml_eq_ok_iff : fromToml α text = .ok a ↔
    ∃ ms, Toml.parse text.toList = some ms ∧ ofDocument α (Toml.table ms) = .ok a := by
  rw [fromToml]
  cases Toml.parse text.toList with
  | none => exact ⟨nofun, fun ⟨_, h, _⟩ => nomatch h⟩
  | some ms =>
    dsimp only
    rw [mapError_eq_ok]
    exact ⟨fun h => ⟨ms, rfl, h⟩, fun ⟨_, heq, h⟩ => Option.some.inj heq ▸ h⟩

theorem hasRoom_toml : HasRoom Toml := fun _ _ _ => rfl

theorem hasRoom_json : HasRoom Json := fun _ _ h => surplus_eq_ok_iff.2 h

/-- The same is read from two TOML texts, one of which leaves out standard values. -/
theorem fromToml_omits (hsound : (Shaped.shape α).isSound = true) {ms ns : List (String × Toml)}
    (hfull : Toml.parse full.toList = some ms) (hbrief : Toml.parse brief.toList = some ns)
    (h : (Shaped.shape α).Omits (Toml.table ms) (Toml.table ns)) :
    fromToml α full = .ok a ↔ fromToml α brief = .ok a := by
  have hread := ofDocument_omits hasRoom_toml hsound h a
  rw [fromToml_eq_ok_iff, fromToml_eq_ok_iff, hfull, hbrief]
  constructor
  · rintro ⟨_, ⟨⟩, h⟩
    exact ⟨ns, rfl, hread.1 h⟩
  · rintro ⟨_, ⟨⟩, h⟩
    exact ⟨ms, rfl, hread.2 h⟩

/-- The same is read straight from two JSON texts, one of which leaves out standard values. -/
theorem fromText_omits (hsound : (Shaped.shape α).isSound = true)
    (hdepth : (Shaped.shape α).depth + 2 ≤ Json.maxDepth) {v w : Json}
    (hfull : Json.outline? full.toList = some v) (hbrief : Json.outline? brief.toList = some w)
    (h : (Shaped.shape α).Omits v w) : fromText α full = .ok a ↔ fromText α brief = .ok a := by
  have hread := ofDocument_omits hasRoom_json hsound h a
  rw [fromText_eq_ok_iff hdepth, fromText_eq_ok_iff hdepth, hfull, hbrief]
  constructor
  · rintro ⟨_, ⟨⟩, h⟩
    exact ⟨w, rfl, hread.1 h⟩
  · rintro ⟨_, ⟨⟩, h⟩
    exact ⟨v, rfl, hread.2 h⟩

end Texts

end RealmRegistry.Schema
