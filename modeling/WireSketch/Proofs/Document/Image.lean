import WireSketch.Proofs.Drawing.Resolve
import WireSketch.Proofs.Value.Reading
import WireSketch.Proofs.Xml.Roundtrip

/-! The element of a document that a scene node becomes. -/
namespace WireSketch
open Contract Xml

theorem keeps_attributeText (v : Value) : reading.Keeps (attributeText v) := by
  unfold attributeText
  split
  · exact keeps_pure _
  · exact StoreM.keeps_ofExcept (Value.civil_intText _)
  · exact keeps_pure _
  · exact Value.keeps_plain _

namespace Attrs

/-- The attributes that have a value, in their order, with the texts of their values. -/
inductive Shown (store : Store) : Attrs → List (String × String) → Prop
  | nil : Shown store [] []
  | dropped {key : Value} {rest : Attrs} {pairs : List (String × String)}
    (hrest : Shown store rest pairs) : Shown store ((key, .none) :: rest) pairs
  | shown {name : String} {v : Value} {text : String} {rest : Attrs} {pairs : List (String × String)}
    (hv : v ≠ .none) (htext : attributeText v store = .ok text store)
    (hrest : Shown store rest pairs) : Shown store ((.str name, v) :: rest) ((name, text) :: pairs)

/-- A map of attributes that can be written: keys are names, and texts may stand in a document. -/
structure Drawable (store : Store) (attrs : Attrs) : Prop where
  key : ∀ entry ∈ attrs, ∃ name : String, entry.1 = .str name ∧ isLocalName name.toList = true ∧
    name ≠ "xmlns"
  /-- A map has each key once. -/
  nodup : (attrs.map (·.1)).Nodup
  text : ∀ entry ∈ attrs, entry.2 ≠ .none → ∀ text, attributeText entry.2 store = .ok text store →
    text.toList.all isChar = true

theorem Drawable.tail {store : Store} {entry : Value × Value} {attrs : Attrs}
    (h : Drawable store (entry :: attrs)) : Drawable store attrs where
  key e he := h.key e (List.mem_cons_of_mem entry he)
  nodup := (List.nodup_cons.mp h.nodup).2
  text e he := h.text e (List.mem_cons_of_mem entry he)

theorem Shown.unique {store : Store} {attrs : Attrs} {pairs others : List (String × String)}
    (h : Shown store attrs pairs) (h' : Shown store attrs others) : pairs = others := by
  induction h generalizing others with
  | nil =>
    cases h'
    rfl
  | dropped _ ih =>
    cases h' with
    | dropped hrest => exact ih hrest
    | shown hv => exact absurd rfl hv
  | shown hv htext _ ih =>
    cases h' with
    | dropped => exact absurd rfl hv
    | shown _ htext' hrest =>
      cases htext.symm.trans htext'
      rw [ih hrest]

/-- A shown name is the key of an attribute. -/
theorem Shown.mem_key {store : Store} {attrs : Attrs} {pairs : List (String × String)}
    (h : Shown store attrs pairs) {a : String × String} (ha : a ∈ pairs) :
    Value.str a.1 ∈ attrs.map (·.1) := by
  induction h with
  | nil => cases ha
  | dropped _ ih => exact List.mem_cons_of_mem _ (ih ha)
  | shown _ _ _ ih =>
    rcases List.mem_cons.mp ha with rfl | ha
    · exact List.mem_cons_self
    · exact List.mem_cons_of_mem _ (ih ha)

theorem Shown.plain {store : Store} {attrs : Attrs} {pairs : List (String × String)}
    (h : Shown store attrs pairs) (hd : attrs.Drawable store) : PlainAttrs pairs := by
  induction h with
  | nil => exact ⟨by simp, by simp, List.nodup_nil⟩
  | dropped _ ih => exact ih hd.tail
  | @shown name v text rest pairs hv htext hrest ih =>
    have hplain := ih hd.tail
    obtain ⟨other, hother, hname, hxmlns⟩ := hd.key (.str name, v) List.mem_cons_self
    cases hother
    have hvalue := hd.text (.str name, v) List.mem_cons_self hv text htext
    have hfresh : name ∉ pairs.map (·.1) := by
      intro hmem
      obtain ⟨a, ha, rfl⟩ := List.mem_map.mp hmem
      exact (List.nodup_cons.mp hd.nodup).1 (hrest.mem_key ha)
    exact ⟨List.forall_mem_cons.mpr ⟨⟨hname, hxmlns⟩, hplain.name⟩,
      List.forall_mem_cons.mpr ⟨hvalue, hplain.value⟩, List.nodup_cons.mpr ⟨hfresh, hplain.nodup⟩⟩

end Attrs

theorem setText_of_not_mem {name value : String} {done : List (String × String)}
    (h : name ∉ done.map (·.1)) : setText name value done = done ++ [(name, value)] := by
  induction done with
  | nil => rfl
  | cons a done ih =>
    obtain ⟨hne, hrest⟩ := not_or.mp (fun hor => h (List.mem_cons.mpr hor))
    rw [setText, if_neg (by simpa using Ne.symm hne), ih hrest]
    rfl

/-- The texts of attributes are added in the order of the attributes. -/
theorem attributeTexts_shown {store t : Store} {attrs : Attrs} {done pairs : List (String × String)}
    (hd : attrs.Drawable store) (hdone : ∀ a ∈ done, Value.str a.1 ∉ attrs.map (·.1))
    (hrun : attributeTexts attrs done store = .ok pairs t) :
    t = store ∧ ∃ shown, pairs = done ++ shown ∧ Attrs.Shown store attrs shown := by
  induction attrs generalizing done with
  | nil =>
    cases hrun
    exact ⟨rfl, [], (List.append_nil _).symm, .nil⟩
  | cons entry attrs ih =>
    obtain ⟨key, v⟩ := entry
    obtain ⟨name, rfl, -, -⟩ := hd.key (key, v) List.mem_cons_self
    have hrest : ∀ a ∈ done, Value.str a.1 ∉ attrs.map (·.1) := fun a ha hmem =>
      hdone a ha (List.mem_cons_of_mem _ hmem)
    by_cases hv : v = .none
    · subst hv
      rw [attributeTexts] at hrun
      obtain ⟨ht, shown, hpairs, hshown⟩ := ih hd.tail hrest hrun
      exact ⟨ht, shown, hpairs, .dropped hshown⟩
    · rw [attributeTexts] at hrun
      · obtain ⟨key, t₁, hkey, hvalue⟩ := Run.of_bind_ok hrun
        cases hkey
        obtain ⟨text, t₂, htext, hnext⟩ := Run.of_bind_ok hvalue
        obtain rfl : t₂ = store := ((keeps_attributeText v).of_ok htext).1
        have hfresh : name ∉ done.map (·.1) := by
          intro hmem
          obtain ⟨a, ha, rfl⟩ := List.mem_map.mp hmem
          exact hdone a ha List.mem_cons_self
        rw [setText_of_not_mem hfresh] at hnext
        have hdone' : ∀ a ∈ done ++ [(name, text)], Value.str a.1 ∉ attrs.map (·.1) := by
          intro a ha
          rcases List.mem_append.mp ha with ha | ha
          · exact hrest a ha
          · rw [List.mem_singleton.mp ha]
            exact (List.nodup_cons.mp hd.nodup).1
        obtain ⟨ht, shown, hpairs, hshown⟩ := ih hd.tail hdone' hnext
        refine ⟨ht, (name, text) :: shown, ?_, .shown hv htext hshown⟩
        rw [hpairs, List.append_assoc, List.singleton_append]
      · exact hv

namespace Node

mutual

/--
The element that a node becomes: its tag in the SVG namespace, its attributes that have a value, and its
content with texts in a row joined and empty ones dropped.
-/
inductive Image (store : Store) : Node → Markup → Prop
  | mk {tag : String} {attrs : Attrs} {content : List Item} {pairs : List (String × String)}
    {parts : List Markup} (hattrs : attrs.Shown store pairs) (hcontent : Images store content parts) :
    Image store (.mk (.str tag) attrs content)
      (.element (qualified tag) pairs (Markup.joined parts))

inductive Images (store : Store) : List Item → List Markup → Prop
  | nil : Images store [] []
  | text {s : String} {rest : List Item} {parts : List Markup} (hrest : Images store rest parts) :
    Images store (.text s :: rest) (.text s :: parts)
  | node {n : Node} {m : Markup} {rest : List Item} {parts : List Markup} (hn : Image store n m)
    (hrest : Images store rest parts) : Images store (.node n :: rest) (m :: parts)

end

mutual

/-- A node has one image at most. -/
theorem Image.unique {store : Store} {n : Node} {m m' : Markup} :
    Image store n m → Image store n m' → m = m'
  | .mk hattrs hcontent, .mk hattrs' hcontent' => by
    rw [hattrs.unique hattrs', hcontent.unique hcontent']

theorem Images.unique {store : Store} {content : List Item} {parts parts' : List Markup} :
    Images store content parts → Images store content parts' → parts = parts'
  | .nil, .nil => rfl
  | .text hrest, .text hrest' => by rw [hrest.unique hrest']
  | .node hn hrest, .node hn' hrest' => by rw [hn.unique hn', hrest.unique hrest']

end

/-- A node whose tag, attributes and texts can be written in a document, at every depth. -/
inductive Drawable (store : Store) : Node → Prop
  | mk {tag : String} {attrs : Attrs} {content : List Item} (htag : isLocalName tag.toList = true)
    (hattrs : attrs.Drawable store)
    (htexts : ∀ s, Item.text s ∈ content → s.toList.all isTextChar = true)
    (hnodes : ∀ n, Item.node n ∈ content → Drawable store n) :
    Drawable store (.mk (.str tag) attrs content)

mutual

/-- A node that becomes an element becomes its image, and one that can be written. -/
theorem toMarkup_image {store t : Store} : (n : Node) → n.Drawable store → (m : Markup) →
    n.toMarkup store = .ok m t → t = store ∧ Plain m ∧ n.Image store m.normal
  | .mk tag attrs content, hd, m, hrun => by
    obtain ⟨htag, hattrs, htexts, hnodes⟩ := hd
    rw [toMarkup] at hrun
    obtain ⟨name, t₁, hname, hrest⟩ := Run.of_bind_ok hrun
    cases hname
    obtain ⟨pairs, t₂, hpairs, hcontent⟩ := Run.of_bind_ok hrest
    obtain ⟨rfl, shown, rfl, hshown⟩ := attributeTexts_shown hattrs (by simp) hpairs
    obtain ⟨parts, t₃, hparts, hdone⟩ := Run.of_bind_ok hcontent
    cases hdone
    obtain ⟨rfl, hplain, himages⟩ := contentMarkup_images content htexts hnodes parts hparts
    exact ⟨rfl, .element htag (hshown.plain hattrs) hplain, .mk hshown himages⟩

theorem contentMarkup_images {store t : Store} : (content : List Item) →
    (∀ s, Item.text s ∈ content → s.toList.all isTextChar = true) →
    (∀ n, Item.node n ∈ content → n.Drawable store) → (ms : List Markup) →
    contentMarkup content store = .ok ms t →
      t = store ∧ (∀ m ∈ ms, Plain m) ∧ Images store content (Markup.normalAll ms)
  | [], _, _, ms, hrun => by
    cases hrun
    exact ⟨rfl, by simp, .nil⟩
  | .text s :: rest, htexts, hnodes, ms, hrun => by
    rw [contentMarkup] at hrun
    obtain ⟨parts, t₁, hparts, hdone⟩ := Run.of_bind_ok hrun
    cases hdone
    obtain ⟨rfl, hplain, himages⟩ := contentMarkup_images rest
      (fun s hs => htexts s (List.mem_cons_of_mem _ hs))
      (fun n hn => hnodes n (List.mem_cons_of_mem _ hn)) parts hparts
    have htext : Plain (.text s) := .text (htexts s List.mem_cons_self)
    exact ⟨rfl, List.forall_mem_cons.mpr ⟨htext, hplain⟩, .text himages⟩
  | .other v :: rest, _, _, ms, hrun => by
    cases hrun
  | .node n :: rest, htexts, hnodes, ms, hrun => by
    rw [contentMarkup] at hrun
    obtain ⟨m, t₁, hm, hrest⟩ := Run.of_bind_ok hrun
    obtain ⟨rfl, hplain, himage⟩ := toMarkup_image n (hnodes n List.mem_cons_self) m hm
    obtain ⟨parts, t₂, hparts, hdone⟩ := Run.of_bind_ok hrest
    cases hdone
    obtain ⟨rfl, hplains, himages⟩ := contentMarkup_images rest
      (fun s hs => htexts s (List.mem_cons_of_mem _ hs))
      (fun n hn => hnodes n (List.mem_cons_of_mem _ hn)) parts hparts
    exact ⟨rfl, List.forall_mem_cons.mpr ⟨hplain, hplains⟩, .node himage himages⟩

end

end Node

end WireSketch
