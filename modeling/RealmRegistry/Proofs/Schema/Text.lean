/-
A value is read straight from the text that is written of it.

`Recovers` is what each reader of a part of a shape does where a value is written, on one line or
over several, with anything behind it that does not go on with a number.

* `recovers_list`, `Layout.place_sketch` — elements and fields recovered make lists and records;
* `Shape.recovers` — every settled value of a sound shape is recovered;
* `fromText_write` — and so is a whole text, with blanks behind it.
-/
import RealmRegistry.Proofs.Schema.Stored

namespace RealmRegistry.Schema

open RealmRegistry.Text RealmRegistry.Json

/-- A reader finds `a` wherever `v` is written. -/
def Recovers {α : Type} (r : FlawReader α) (v : Json) (a : α) : Prop :=
  ∀ (indent : Option Nat) {b rest : List Char}, Blanks b → EndsNumber rest →
    Reads r (b ++ (write indent v ++ rest)) a rest

theorem Recovers.map {α β : Type} {r : FlawReader α} {v : Json} {a : α} (h : Recovers r v a)
    (f : α → β) : Recovers (r.map f) v (f a) := by
  intro indent b rest hb hr
  exact (h indent hb hr).map f

/-! ### First characters -/

section FirstCharacter

variable {b : List Char} {c d : Char}

theorem afterChar?_self (hb : Blanks b) (hc : isSpace c = false) (r : List Char) :
    ∃ h, afterChar? c (b ++ c :: r) = some ⟨(), r, h⟩ := by
  obtain ⟨h, heq⟩ := afterSpace_append hb hc r
  refine ⟨h, ?_⟩
  rw [afterChar?, heq]
  exact if_pos rfl

theorem afterChar?_other (hb : Blanks b) (hc : isSpace c = false) (hne : c ≠ d) (r : List Char) :
    afterChar? d (b ++ c :: r) = none := by
  obtain ⟨h, heq⟩ := afterSpace_append hb hc r
  rw [afterChar?, heq]
  exact if_neg hne

theorem reads_nameFromText {α : Type} (a : α) (word rest : List Char) {s : List Char}
    (h : (word ++ rest).length < s.length) :
    ∃ h', nameFromText a word (⟨(), word ++ rest, h⟩ : Taken Unit s) = .ok ⟨a, rest, h'⟩ := by
  obtain ⟨hle, heq⟩ := passes_word word rest
  refine ⟨Nat.lt_of_le_of_lt hle h, ?_⟩
  rw [nameFromText, heq]
  rfl

end FirstCharacter

/-! ### Scalars -/

theorem recovers_text (t : String) : Recovers textFromText (.text t) t := by
  intro indent b rest hb _
  rw [write, quote_append]
  obtain ⟨h, hafter⟩ := afterChar?_self (c := '"') hb (by decide)
    (t.toList.flatMap escapeChar ++ '"' :: rest)
  obtain ⟨hlt, hread⟩ := reads_text t rest
  refine ⟨Nat.lt_trans hlt h, ?_⟩
  rw [textFromText, hafter]
  simp only [hread]
  rfl

theorem recovers_flag (v : Bool) : Recovers flagFromText (.flag v) v := by
  intro indent b rest hb _
  cases v with
  | true =>
    rw [write]
    show Reads flagFromText (b ++ 't' :: (['r', 'u', 'e'] ++ rest)) true rest
    obtain ⟨h, hafter⟩ := afterChar?_self (c := 't') hb (by decide) (['r', 'u', 'e'] ++ rest)
    obtain ⟨h', hname⟩ := reads_nameFromText true ['r', 'u', 'e'] rest h
    refine ⟨h', ?_⟩
    rw [flagFromText, hafter]
    exact hname
  | false =>
    rw [write]
    show Reads flagFromText (b ++ 'f' :: (['a', 'l', 's', 'e'] ++ rest)) false rest
    have hother := afterChar?_other (c := 'f') (d := 't') hb (by decide) (by decide)
      (['a', 'l', 's', 'e'] ++ rest)
    obtain ⟨h, hafter⟩ := afterChar?_self (c := 'f') hb (by decide) (['a', 'l', 's', 'e'] ++ rest)
    obtain ⟨h', hname⟩ := reads_nameFromText false ['a', 'l', 's', 'e'] rest h
    refine ⟨h', ?_⟩
    rw [flagFromText, hother, hafter]
    exact hname

theorem recovers_word {width : Nat} (hw : width ≤ 64) (n : Fin (wordCount width)) :
    Recovers (wordFromText width) (.integer n.val) n := by
  intro indent b rest hb hr
  have hplain : (Json.integer n.val).Plain := Shape.plain_toJson (.word width) n
    (decide_eq_true hw)
  obtain ⟨c, r, heq, hc⟩ := toString_cons n.val
  obtain ⟨c', r', heq', hspace, -⟩ := write_cons indent hplain
  rw [write, heq] at heq'
  obtain ⟨rfl, rfl⟩ := List.cons.inj heq'
  have hread := reads_number hplain hr
  rw [heq, List.cons_append] at hread
  obtain ⟨hlt, hread⟩ := hread
  obtain ⟨h, hafter⟩ := afterSpace_append hb hspace (r ++ rest)
  rw [write, heq, List.cons_append]
  refine ⟨Nat.lt_of_lt_of_le hlt h, ?_⟩
  rw [wordFromText, hafter]
  simp only [if_pos hc, hread, readWord_val]
  rfl

theorem recovers_choice {first : String} {others : List String}
    (h : (choiceNames first others).Nodup) (i : Fin (others.length + 1)) :
    Recovers (choiceFromText first others) (.text (choiceName first others i)) i := by
  intro indent b rest hb _
  rw [write, quote_append]
  obtain ⟨hlt, hread⟩ := reads_text (choiceName first others i) rest
  obtain ⟨h', hafter⟩ := afterChar?_self (c := '"') hb (by decide)
    ((choiceName first others i).toList.flatMap escapeChar ++ '"' :: rest)
  refine ⟨Nat.lt_trans hlt h', ?_⟩
  rw [choiceFromText, hafter]
  simp only [choiceNameFromText, hread, readChoice_name h]
  rfl

/-- Only null is taken for an unset field. -/
theorem recovers_optional {α : Type} {item : FlawReader α} {v : Json} {a : α} (hv : v.Plain)
    (hnull : v ≠ .null) (h : Recovers item v a) : Recovers (optionalFromText item) v (some a) := by
  intro indent b rest hb hr
  obtain ⟨hlt, hread⟩ := h indent hb hr
  obtain ⟨c, r, heq, hspace, -, hne⟩ := write_cons indent hv
  have hother := afterChar?_other hb hspace (hne hnull) (r ++ rest)
  rw [← List.cons_append, ← heq] at hother
  refine ⟨hlt, ?_⟩
  rw [optionalFromText, hother]
  simp only [hread]
  rfl

theorem Presence.recovers_written {p : Presence} {s : Shape} {v : p.Slot s.Carrier}
    {w : s.Carrier} (hs : s.isSound = true) (h : p.written? s v = some w)
    (hw : Recovers s.fromText (s.toJson w) w) :
    Recovers (p.fromText s.fromText) (s.toJson w) v := by
  cases p with
  | required =>
    cases h
    exact hw
  | optional =>
    rw [show v = some w from h]
    exact recovers_optional (s.plain_toJson w hs) (s.toJson_ne_null w) hw
  | retired => cases h
  | defaulted value whenEmpty =>
    simp only [Presence.written?] at h
    split at h
    · cases h
    · cases h
      exact hw

/-! ### Lists and objects -/

theorem gathers_itemsFromText {α : Type} {item : FlawReader α} {f : α → Json}
    (inner : Option Nat) {b : List Char} (hb : Blanks b) {l : List α}
    (h : ∀ a ∈ l, (f a).Plain ∧ Recovers item (f a) a) (first : Bool) (rest : List Char) :
    Gathers (itemsFromText item first) (writeItems inner first (l.map f) ++ (b ++ ']' :: rest)) l
      (b ++ ']' :: rest) := by
  induction l generalizing first with
  | nil =>
    rw [List.map_nil, writeItems, List.nil_append]
    refine ⟨Nat.le_refl _, ?_⟩
    rw [itemsFromText, nextItem_close first hb rest]
    rfl
  | cons a l ih =>
    obtain ⟨hplain, hrecovers⟩ := h a List.mem_cons_self
    obtain ⟨hle, hmore⟩ := ih (fun a' ha' => h a' (List.mem_cons_of_mem a ha')) false
    obtain ⟨c, t, hwrite, hspace, hne, -⟩ := write_cons inner hplain
    -- a comma or the end of the list is behind the element, so a number ends there
    have hitem := hrecovers inner blanks_nil (endsNumber_items inner hb (l.map f) rest)
    rw [hwrite, List.nil_append, List.cons_append] at hitem
    obtain ⟨hlt, hitem⟩ := hitem
    rw [List.map_cons, writeItems, hwrite]
    simp only [List.append_assoc, List.cons_append]
    obtain ⟨hn, hnext⟩ := nextItem_lead inner first hspace hne
      (t ++ (writeItems inner false (l.map f) ++ (b ++ ']' :: rest)))
    refine ⟨Nat.le_trans hle (Nat.le_trans (Nat.le_of_lt hlt) hn), ?_⟩
    rw [itemsFromText, hnext]
    simp only [hitem, hmore]
    rfl

theorem recovers_list {α : Type} {item : FlawReader α} {f : α → Json} (expected : String)
    {l : List α} (h : ∀ a ∈ l, (f a).Plain ∧ Recovers item (f a) a) :
    Recovers (bracketed '[' expected (listFromText item)) (.list (l.map f)) l := by
  intro indent b rest hb _
  obtain ⟨t, ht, hwrite⟩ := write_list indent (l.map f)
  rw [hwrite]
  obtain ⟨hle, hitems⟩ := gathers_itemsFromText (indent.map (· + 1)) ht h true rest
  obtain ⟨hlt, hend⟩ := reads_endList ht rest
  obtain ⟨hn, hafter⟩ := afterChar?_self (c := '[') hb (by decide)
    (writeItems (indent.map (· + 1)) true (l.map f) ++ (t ++ ']' :: rest))
  refine ⟨Nat.lt_trans (Nat.lt_of_lt_of_le hlt hle) hn, ?_⟩
  rw [bracketed, hafter]
  simp only [listFromText, hitems, hend]
  rfl

/-- A member that finds its place in a draft, where its value is recovered. -/
def Recovery {D : Type} (place : String → D → Placement D) (k : String) (v : Json) (d next : D) :
    Prop :=
  ∃ reader, place k d = .vacant reader ∧ Recovers reader v next

theorem gathers_membersFromText {D : Type} {place : String → D → Placement D}
    (inner : Option Nat) {b : List Char} (hb : Blanks b) {ms : List (String × Json)} {d e : D}
    (h : Fills (Recovery place) d ms e) (first : Bool) (rest : List Char) :
    Gathers (membersFromText place first d)
      (writeMembers inner first ms ++ (b ++ '}' :: rest)) e (b ++ '}' :: rest) := by
  -- Along the members; only the first one is written without a comma before it.
  induction h generalizing first with
  | nil d =>
    rw [writeMembers, List.nil_append]
    refine ⟨Nat.le_refl _, ?_⟩
    rw [membersFromText, nextMember_close first hb rest]
    rfl
  | @cons k v r d next e head tail ih =>
    obtain ⟨reader, hplace, hrecovers⟩ := head
    obtain ⟨hle, hmore⟩ := ih false
    obtain ⟨hlt, hvalue⟩ := hrecovers inner (blanks_gap inner)
      (endsNumber_members inner hb r rest)
    obtain ⟨hc, hcolon⟩ := passes_colon inner
      (write inner v ++ (writeMembers inner false r ++ (b ++ '}' :: rest)))
    obtain ⟨hk, hkey⟩ := reads_text k (colon inner ++
      (write inner v ++ (writeMembers inner false r ++ (b ++ '}' :: rest))))
    rw [writeMembers]
    simp only [List.append_assoc, quote_append, List.cons_append]
    obtain ⟨hn, hnext⟩ := nextMember_lead inner first (k.toList.flatMap escapeChar ++ '"' ::
      (colon inner ++ (write inner v ++ (writeMembers inner false r ++ (b ++ '}' :: rest)))))
    refine ⟨Nat.le_trans hle (Nat.le_trans (Nat.le_of_lt hlt) (Nat.le_trans hc
      (Nat.le_trans (Nat.le_of_lt hk) hn))), ?_⟩
    rw [membersFromText, hnext]
    simp only [hkey, hplace, hcolon, hvalue, hmore]
    rfl

theorem fills_dict {α : Type} {item : FlawReader α} {f : α → Json} (d : Dict α)
    {l : List (String × α)} (h : ∀ e ∈ l, Recovers item (f e.2) e.2) :
    Fills (Recovery fun k d => .vacant (item.map (d.insert k))) d
      (l.map fun e => (e.1, f e.2)) (l.foldl (fun d e => d.insert e.1 e.2) d) := by
  induction l generalizing d with
  | nil => exact .nil d
  | cons e r ih =>
    have hhead := (h e List.mem_cons_self).map (d.insert e.1)
    exact .cons ⟨_, rfl, hhead⟩ (ih _ fun e' he' => h e' (List.mem_cons_of_mem e he'))

theorem recovers_dict {α : Type} {item : FlawReader α} {f : α → Json} (expected : String)
    (c : Dict α) (h : ∀ e ∈ c.entries, Recovers item (f e.2) e.2) :
    Recovers (bracketed '{' expected (dictFromText item))
      (.object (c.entries.map fun e => (e.1, f e.2))) c := by
  intro indent b rest hb _
  have hfills := fills_dict Dict.empty h
  rw [show c.entries.foldl (fun d e => d.insert e.1 e.2) Dict.empty = c from
    Dict.ofList_entries c] at hfills
  obtain ⟨t, ht, hwrite⟩ := write_object indent (c.entries.map fun e => (e.1, f e.2))
  rw [hwrite]
  obtain ⟨hle, hmembers⟩ := gathers_membersFromText (indent.map (· + 1)) ht hfills true rest
  obtain ⟨hlt, hend⟩ := reads_endObject ht rest
  obtain ⟨hn, hafter⟩ := afterChar?_self (c := '{') hb (by decide)
    (writeMembers (indent.map (· + 1)) true (c.entries.map fun e => (e.1, f e.2)) ++
      (t ++ '}' :: rest))
  refine ⟨Nat.lt_trans (Nat.lt_of_lt_of_le hlt hle) hn, ?_⟩
  rw [bracketed, hafter]
  simp only [dictFromText, hmembers, hend]
  rfl

/-! ### Values -/

mutual

/-- A settled value is recovered where it is written. -/
theorem Shape.recovers : ∀ (s : Shape) (c : s.Carrier), s.isSound = true → s.Settled c →
    Recovers s.fromText (s.toJson c) c
  | .text, c, _, _ => recovers_text c
  | .flag, c, _, _ => recovers_flag c
  | .word _, c, hs, _ => recovers_word (of_decide_eq_true hs) c
  | .choice _ _, c, hs, _ => recovers_choice (of_decide_eq_true hs) c
  | .list item, c, hs, hc =>
    recovers_list _ fun a ha => ⟨item.plain_toJson a hs, Shape.recovers item a hs (hc a ha)⟩
  | .dict item, c, hs, hc =>
    recovers_dict _ c fun e he => Shape.recovers item e.2 hs (hc e he)
  | .record title fields, c, hs, hc => by
    intro indent b rest hb _
    obtain ⟨draft, hfills, hfinish⟩ := Layout.fills_record (Recovery fields.place) hc
      (fun m hm done hdone => Layout.place_sketch fields c hs hc hm hdone)
      (Layout.nodup_keys_toMembers fields c hs) (fun m hm => List.mem_map_of_mem hm)
    obtain ⟨t, ht, hwrite⟩ := write_object indent (fields.toMembers c)
    rw [Shape.toJson, hwrite]
    obtain ⟨hle, hmembers⟩ := gathers_membersFromText (indent.map (· + 1)) ht hfills true rest
    obtain ⟨hlt, hend⟩ := reads_endObject ht rest
    obtain ⟨hn, hafter⟩ := afterChar?_self (c := '{') hb (by decide)
      (writeMembers (indent.map (· + 1)) true (fields.toMembers c) ++ (t ++ '}' :: rest))
    -- a record could be written as a list as well, so that is what is tried first
    have hother := afterChar?_other (c := '{') (d := '[') hb (by decide) (by decide)
      (writeMembers (indent.map (· + 1)) true (fields.toMembers c) ++ (t ++ '}' :: rest))
    refine ⟨Nat.lt_trans (Nat.lt_of_lt_of_le hlt hle) hn, ?_⟩
    simp only [Shape.fromText, hother, hafter, hmembers, hfinish, hend]
    rfl

/-- A written member finds its place in a sketch of the record and adds its own field. -/
theorem Layout.place_sketch : ∀ (fields : Layout) (c : fields.Carrier), fields.isSound = true →
    fields.Settled c → ∀ {done : List String} {k : String} {v : Json},
    (k, v) ∈ fields.toMembers c → k ∉ done →
    Recovery fields.place k v (fields.sketch done c) (fields.sketch (k :: done) c)
  | .nil, _, _, _, _, _, _, hm, _ => by simp at hm
  | .cons key p s rest, (v, more), hs, hc, done, k, u, hm, hdone => by
    obtain ⟨hkey, hshape, hrest⟩ := Layout.isSound_cons.1 hs
    rcases Layout.mem_toMembers_cons.1 hm with ⟨w, hwritten, rfl, rfl⟩ | hm
    · -- the member is that of the first field, which is still vacant
      have hw := Shape.recovers s w hshape (Presence.settled_of_written hc.1 hwritten)
      have hslot : Recovers (p.fromText s.fromText) (s.toJson w) v :=
        Presence.recovers_written hshape hwritten hw
      have hmap := hslot.map fun a => (some a, rest.sketch done more)
      rw [Layout.sketch_vacant hdone, Layout.sketch_own hkey hwritten]
      refine ⟨_, ?_, hmap⟩
      rw [Layout.place, if_pos rfl, Option.isSome_none, if_neg Bool.false_ne_true]
    · -- a member of another field leaves the first one as it is
      have hne : k ≠ key := fun heq => hkey (heq ▸ Layout.keys_toMembers rest more hm)
      obtain ⟨reader, hplace, hrecovers⟩ := Layout.place_sketch rest more hrest hc.2 hm hdone
      have hmap := hrecovers.map
        fun next => (((Layout.cons key p s rest).sketch done (v, more)).1, next)
      rw [Layout.sketch_other hne]
      refine ⟨_, ?_, hmap⟩
      rw [Layout.sketch, Layout.place, if_neg hne, hplace]

end

/-! ### Texts -/

variable {α : Type} [Shaped α] [Recoverable α]

/-- A value is read from the text that is written of it, whatever blanks are behind it. -/
theorem fromText_write (a : α) (indent : Option Nat) {b : List Char} (hb : Blanks b) :
    fromText α (String.ofList (write indent (toJson a) ++ b)) = .ok a := by
  have hends := endsNumber_blanks hb endsNumber_nil
  rw [List.append_nil] at hends
  have hread := Shape.recovers _ _ Recoverable.sound (Recoverable.settled a) indent blanks_nil hends
  rw [List.nil_append] at hread
  obtain ⟨hlt, hread⟩ := hread
  have hparse : (Shaped.shape α).parse (write indent (toJson a) ++ b) = .ok (Shaped.pack a) := by
    rw [Shape.parse, toJson, hread]
    show (do (readEnd b).mapError malformed; return Shaped.pack a) = _
    rw [readEnd_blanks hb]
    rfl
  rw [fromText, String.toList_ofList, hparse]
  exact congrArg _ (Shaped.unpack_pack a)

end RealmRegistry.Schema
