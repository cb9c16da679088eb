/-
Documents of any format from which a value is read.

A document shows a value if, level by level, it has what would be written of the value: nothing is
said of how the document came about, of the order in which it has the members of a table, or of its
format.  The members of a record only add themselves to the sketch of the record, whatever was read
before (`Layout.put_sketch`), and the entries of a dictionary go to their places.

* `Shape.Shows` — what a document has to be like;
* `Shape.ofDocument_of_shows` — a settled value is read from a document that shows it.
-/
import Mathlib.Data.List.Forall2
import RealmRegistry.Proofs.Dict
import RealmRegistry.Proofs.Result
import RealmRegistry.Proofs.Schema.Sketch

namespace RealmRegistry

namespace Schema

/-! ### Scalars -/

theorem choiceIndex?_name {first : String} {others : List String}
    (h : (choiceNames first others).Nodup) (i : Fin (others.length + 1)) :
    choiceIndex? first others (choiceName first others i) = some i := by
  obtain ⟨hfirst, hothers⟩ := List.nodup_cons.1 h
  cases i using Fin.cases with
  | zero => exact if_pos rfl
  | succ j =>
    have hname : choiceName first others j.succ = others[j] := rfl
    have hne : others[j] ≠ first := fun heq => hfirst (heq ▸ List.getElem_mem j.isLt)
    rw [hname, choiceIndex?, if_neg hne, Option.map_eq_some_iff]
    refine ⟨j, List.findFinIdx?_eq_some_iff.2 ⟨beq_self_eq_true _, fun k hk => ?_⟩, rfl⟩
    simp only [beq_iff_eq]
    intro heq
    exact List.pairwise_iff_getElem.1 hothers k j k.isLt j.isLt hk heq

/-- The name of a choice is read as the choice. -/
theorem readChoice_name {first : String} {others : List String}
    (h : (choiceNames first others).Nodup) (i : Fin (others.length + 1)) :
    readChoice first others (choiceName first others i) = .ok i := by
  rw [readChoice, choiceIndex?_name h]

@[simp] theorem readWord_val {width : Nat} (n : Fin (wordCount width)) :
    readWord width (n.val : Int) = .ok n := by
  rw [readWord, dif_pos ⟨Int.natCast_nonneg _, by rw [Int.toNat_natCast]; exact n.isLt⟩]
  rfl

/-! ### Lists, dictionaries and records -/

variable {V : Type}

theorem readAll_of_shows {α : Type} {item : V → Except Mismatch α} {l : List α} {vs : List V}
    (h : List.Forall₂ (fun a v => item v = .ok a) l vs) : readAll item vs = .ok l := by
  induction h with
  | nil => rfl
  | cons hread _ ih =>
    rw [readAll, hread]
    simp only [ih]
    rfl

theorem readEntries_of_shows {α : Type} {item : V → Except Mismatch α} (d : Dict α)
    {es : List (String × α)} {ms : List (String × V)}
    (h : List.Forall₂ (fun e m => m.1 = e.1 ∧ item m.2 = .ok e.2) es ms) :
    readEntries item d ms = .ok (es.foldl (fun d e => d.insert e.1 e.2) d) := by
  induction h generalizing d with
  | nil => rfl
  | cons hread _ ih =>
    rw [readEntries, hread.2, hread.1]
    exact ih _

theorem readMembers_fills {D : Type} {put : String → V → D → Except Mismatch D}
    {ms : List (String × V)} {d e : D}
    (h : Fills (fun k v d next => put k v d = .ok next) d ms e) : readMembers put d ms = .ok e := by
  induction h with
  | nil d => rfl
  | cons head tail ih =>
    rw [readMembers, head]
    exact ih

/-! ### What a document shows -/

variable [Document V]

mutual

/-- A document has what is written of a value. -/
def Shape.Shows : (s : Shape) → s.Carrier → V → Prop
  | .text, c, v => Document.view v = .text c
  | .flag, c, v => Document.view v = .flag c
  | .word _, c, v => Document.view v = .integer c.val
  | .choice first others, c, v =>
    Document.view v ≠ .null ∧ Document.choice v = .ok (choiceName first others c, .ok ())
  | .list item, c, v => ∃ vs, Document.view v = .list vs ∧ List.Forall₂ item.Shows c vs
  | .dict item, c, v =>
    ∃ ms es, Document.view v = .table ms ∧ es.Perm c.entries ∧
      List.Forall₂ (fun e m => m.1 = e.1 ∧ item.Shows e.2 m.2) es ms
  | .record _ fields, c, v =>
    ∃ ms, Document.view v = .table ms ∧
      (ms.map Prod.fst).Perm ((fields.toMembers c).map Prod.fst) ∧
      ∀ m ∈ ms, fields.ShowsMember c m.1 m.2

/-- A member of a document is that of a written field of a record. -/
def Layout.ShowsMember : (fields : Layout) → fields.Carrier → String → V → Prop
  | .nil, _, _, _ => False
  | .cons key p s rest, (v, more), k, u =>
    (∃ w, p.written? s v = some w ∧ k = key ∧ s.Shows w u) ∨ rest.ShowsMember more k u

end

theorem Shape.view_ne_null_of_shows {s : Shape} {c : s.Carrier} {v : V} (h : s.Shows c v) :
    Document.view v ≠ .null := by
  cases s with
  | choice first others => exact h.1
  | list item =>
    obtain ⟨vs, hv, -⟩ := h
    simp [hv]
  | dict item =>
    obtain ⟨ms, es, hv, -⟩ := h
    simp [hv]
  | record title fields =>
    obtain ⟨ms, hv, -⟩ := h
    simp [hv]
  | _ => simp [show Document.view v = _ from h]

theorem Layout.mem_keys_of_shows : ∀ (fields : Layout) (c : fields.Carrier) {k : String} {v : V},
    fields.ShowsMember c k v → k ∈ fields.keys
  | .nil, _, _, _, h => h.elim
  | .cons key p s rest, (w, more), k, v, h => by
    rw [Layout.keys, List.mem_cons]
    rcases h with ⟨-, -, hk, -⟩ | h
    · exact .inl hk
    · exact .inr (Layout.mem_keys_of_shows rest more h)

/-! ### Values -/

/-- What is written for a field is read as the value of the field. -/
theorem Presence.ofDocument_of_shows {p : Presence} {s : Shape} {v : p.Slot s.Carrier}
    {w : s.Carrier} {u : V} (h : p.written? s v = some w) (hnull : Document.view u ≠ .null)
    (hw : s.ofDocument u = .ok w) : p.ofDocument s.ofDocument u = .ok v := by
  cases p with
  | required =>
    cases h
    exact hw
  | optional =>
    rw [show v = some w from h]
    rw [Presence.ofDocument, Presence.ofDocument.optional]
    split
    next hview => exact absurd hview hnull
    next => rw [hw]; rfl
  | retired => cases h
  | defaulted value whenEmpty =>
    simp only [Presence.written?] at h
    split at h
    · cases h
    · cases h
      exact hw

mutual

/-- A settled value is read from a document that shows it. -/
theorem Shape.ofDocument_of_shows : ∀ (s : Shape) (c : s.Carrier) {v : V}, s.isSound = true →
    s.Settled c → s.Shows c v → s.ofDocument v = .ok c
  | .text, _, _, _, _, h => by
    simp only [Shape.ofDocument, show Document.view _ = _ from h]
  | .flag, _, _, _, _, h => by
    simp only [Shape.ofDocument, show Document.view _ = _ from h]
  | .word _, c, _, _, _, h => by
    simp [Shape.ofDocument, show Document.view _ = _ from h]
  | .choice first others, c, _, hs, _, h => by
    have hread := readChoice_name (of_decide_eq_true hs) c
    simp only [Shape.ofDocument, h.2, hread]
    rfl
  | .list item, c, _, hs, hc, h => by
    obtain ⟨vs, hview, hall⟩ := h
    simp only [Shape.ofDocument, hview]
    refine readAll_of_shows ?_
    rw [List.forall₂_iff_zip] at hall ⊢
    refine ⟨hall.1, fun hm => ?_⟩
    exact Shape.ofDocument_of_shows item _ hs (hc _ (List.of_mem_zip hm).1) (hall.2 hm)
  | .dict item, c, _, hs, hc, h => by
    -- The members may stand in any order, which the dictionary read from them forgets.
    obtain ⟨ms, es, hview, hperm, hall⟩ := h
    simp only [Shape.ofDocument, hview]
    have hread : List.Forall₂ (fun e m => m.1 = e.1 ∧ item.ofDocument m.2 = .ok e.2) es ms := by
      rw [List.forall₂_iff_zip] at hall ⊢
      refine ⟨hall.1, fun {e m} hm => ⟨(hall.2 hm).1, ?_⟩⟩
      have hmem := hperm.mem_iff.1 (List.of_mem_zip hm).1
      exact Shape.ofDocument_of_shows item _ hs (hc _ hmem) (hall.2 hm).2
    rw [readEntries_of_shows Dict.empty hread]
    exact congrArg _ (Dict.ofList_of_perm hperm)
  | .record title fields, c, _, hs, hc, h => by
    obtain ⟨ms, hview, hperm, hall⟩ := h
    simp only [Shape.ofDocument, hview]
    -- Each member fills its own place of the draft, whichever were filled before it.
    obtain ⟨draft, hfills, hfinish⟩ := Layout.fills_record
      (fun k v d next => fields.put k v d = .ok next) hc
      (fun m hm done hdone => Layout.put_sketch fields c hs hc (hall m hm) hdone)
      (hperm.nodup_iff.2 (Layout.nodup_keys_toMembers fields c hs))
      (fun m hm => hperm.mem_iff.2 (List.mem_map_of_mem hm))
    rw [readMembers_fills hfills]
    exact hfinish

/-- A member that shows a field adds it to a sketch of the record. -/
theorem Layout.put_sketch : ∀ (fields : Layout) (c : fields.Carrier), fields.isSound = true →
    fields.Settled c → ∀ {done : List String} {k : String} {u : V},
    fields.ShowsMember c k u → k ∉ done →
    fields.put k u (fields.sketch done c) = .ok (fields.sketch (k :: done) c)
  | .nil, _, _, _, _, _, _, h, _ => h.elim
  | .cons key p s rest, (v, more), hs, hc, done, k, u, h, hdone => by
    obtain ⟨hkey, hshape, hrest⟩ := Layout.isSound_cons.1 hs
    rcases h with ⟨w, hwritten, rfl, hw⟩ | h
    · -- the member is that of the first field, which is still vacant
      have hread := Shape.ofDocument_of_shows s w hshape
        (Presence.settled_of_written hc.1 hwritten) hw
      have hslot : p.ofDocument s.ofDocument u = .ok v :=
        Presence.ofDocument_of_shows hwritten (Shape.view_ne_null_of_shows hw) hread
      rw [Layout.sketch_vacant hdone, Layout.put, if_pos rfl, Option.isSome_none,
        if_neg Bool.false_ne_true, hslot, Layout.sketch_own hkey hwritten]
      rfl
    · -- a member of another field leaves the first one as it is
      have hne : k ≠ key := fun heq => hkey (heq ▸ Layout.mem_keys_of_shows rest more h)
      have hnext := Layout.put_sketch rest more hrest hc.2 h hdone
      rw [Layout.sketch_other hne, Layout.sketch, Layout.put, if_neg hne, hnext]
      rfl

end

end Schema

end RealmRegistry
