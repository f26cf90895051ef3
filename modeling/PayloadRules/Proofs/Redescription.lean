import Mathlib.Data.List.Forall2
import PayloadRules.Proofs.ArrayTexts
import PayloadRules.Proofs.Site.Places
import PayloadRules.Proofs.Table

/-!
# Objects do not stand in for arrays

A label inside array items names the outermost array around it. What an object between
that array and the field says about itself is of no consequence then: the description of
a node that is no array can be replaced and no label but its own changes
(`Schema.redescription_stays_local`), as long as something above the node names the
array.

Where nothing does, because the outermost array has an empty text and so has everything
that stands between, the text of the node itself is handed down, and all labels below name
the object in place of the array (`Schema.object_stands_in`).

Two compilations are compared here, one of a tree and one of the tree with another
description at one place. They are taken apart side by side, along the place.
-/

namespace PayloadRules

/-! ## Entries that differ in some values -/

/-- Entries of the same names in the same order, and of the same values but for some
names. -/
def AgreeBut (changed : String → Prop) (before after : List (String × String)) : Prop :=
  List.Forall₂ (fun d e => d.1 = e.1 ∧ (¬ changed d.1 → d.2 = e.2)) before after

namespace AgreeBut

variable {changed : String → Prop} {before after : List (String × String)}

protected theorem refl (entries : List (String × String)) : AgreeBut changed entries entries :=
  List.forall₂_same.mpr fun _ _ => ⟨rfl, fun _ => rfl⟩

protected theorem append {more others : List (String × String)}
    (front : AgreeBut changed before after) (rest : AgreeBut changed more others) :
    AgreeBut changed (before ++ more) (after ++ others) :=
  List.rel_append front rest

/-- Other names are found with the same value. -/
theorem lookup_eq (agree : AgreeBut changed before after) {k : String} (other : ¬ changed k) :
    before.lookup k = after.lookup k := by
  induction agree with
  | nil => rfl
  | @cons d e before after here _ ih =>
    rw [lookup_cons_eq_ite, lookup_cons_eq_ite, ih, ← here.1]
    by_cases same : k = d.1
    · rw [if_pos same, if_pos same, here.2 (same ▸ other)]
    · rw [if_neg same, if_neg same]

/-- Tables made of such entries have the same names. -/
theorem keys_insertAll_eq (agree : AgreeBut changed before after) {t u : Table String}
    (keys : t.keys = u.keys) : (t.insertAll before).keys = (u.insertAll after).keys := by
  induction agree generalizing t u with
  | nil => exact keys
  | @cons d e before after here _ ih =>
    refine ih (t := t.insert d.1 d.2) (u := u.insert e.1 e.2) ?_
    rw [← here.1]
    by_cases there : d.1 ∈ t.keys
    · rw [Table.insert_of_mem there, Table.insert_of_mem (keys ▸ there), keys]
    · rw [Table.keys, Table.keys, Table.entries_insert_of_not_mem there,
        Table.entries_insert_of_not_mem (keys ▸ there), List.map_append, List.map_append]
      exact congrArg (· ++ [d.1]) keys

end AgreeBut

/-- A result of entries is followed by another one if the other one has entries too, which
differ only in the values of some names. -/
def Follows (changed : String → Prop) (x y : Except CompileError (List (String × String))) : Prop :=
  ∀ before, x = .ok before → ∃ after, y = .ok after ∧ AgreeBut changed before after

namespace Follows

variable {changed : String → Prop} {x y : Except CompileError (List (String × String))}

protected theorem refl (x : Except CompileError (List (String × String))) : Follows changed x x :=
  fun before h => ⟨before, h, AgreeBut.refl before⟩

theorem of_error (e : CompileError) : Follows changed (.error e) y := fun _ h => (nomatch h)

theorem map_append {front others : List (String × String)} (heads : AgreeBut changed front others)
    (rest : Follows changed x y) : Follows changed (x.map (front ++ ·)) (y.map (others ++ ·)) := by
  cases x with
  | error e => exact of_error e
  | ok before =>
    obtain ⟨after, rfl, agree⟩ := rest before rfl
    intro all h
    cases h
    exact ⟨_, rfl, heads.append agree⟩

theorem map_cons {d e : String × String} (name : d.1 = e.1) (value : ¬ changed d.1 → d.2 = e.2)
    (rest : Follows changed x y) : Follows changed (x.map (d :: ·)) (y.map (e :: ·)) :=
  map_append (List.Forall₂.cons ⟨name, value⟩ List.Forall₂.nil) rest

theorem bind_append {xs ys : Except CompileError (List (String × String))}
    (first : Follows changed x y) (rest : Follows changed xs ys) :
    Follows changed (x.bind fun front => xs.map (front ++ ·))
      (y.bind fun front => ys.map (front ++ ·)) := by
  cases x with
  | error e => exact of_error e
  | ok before =>
    obtain ⟨after, rfl, agree⟩ := first before rfl
    exact map_append agree rest

end Follows

/-! ## Labels of two trees side by side -/

/-- The facets with another description, or with none. -/
def Facets.describe (description : Option String) (f : Facets) : Facets :=
  { f with description := description }

theorem Facets.kind_describe (description : Option String) (f : Facets) :
    (f.describe description).kind = f.kind := rfl

theorem Facets.name?_describe (description : Option String) (f : Facets) :
    (f.describe description).name? = f.name? := rfl

namespace Schema

section Pairs

variable {changed : String → Prop} (format : Formatter) {container : Path} {inside : Bool}
  {root : String} {s t : Schema}

/-- Two arrays of the same name and text. -/
theorem follows_of_array (array : s.kind = some .array) (kind : t.kind = s.kind)
    (names : t.name? = s.name?) (label : t.label = s.label)
    (items : ∀ name, s.name? = some name →
      Follows changed
        (itemLabels format (container.child name)
          (if inside && container.hasWildcard then root else s.label) s.items)
        (itemLabels format (container.child name)
          (if inside && container.hasWildcard then root else s.label) t.items)) :
    Follows changed (s.labelEntries format container inside root)
      (t.labelEntries format container inside root) := by
  cases named : s.name? with
  | none =>
    rw [labelEntries_of_unnamed _ _ _ _ named]
    exact Follows.of_error _
  | some name =>
    rw [labelEntries_of_array _ _ _ _ named array,
      labelEntries_of_array _ _ _ _ (names.trans named) (kind.trans array), label]
    exact Follows.map_append (AgreeBut.refl _) (items name named)

/-- Two other nodes of the same name. -/
theorem follows_of_other (other : s.kind ≠ some .array) (kind : t.kind = s.kind)
    (names : t.name? = s.name?) (fields : t.HasFields ↔ s.HasFields)
    (own : ∀ name, s.name? = some name → ¬ changed (container.child name).key → t.label = s.label)
    (handed : root = "" → inside = true → t.label = s.label)
    (below : ∀ name, s.name? = some name →
      Follows changed
        (propertyLabels format (container.child name) inside
          (if root = "" ∧ inside then s.label else root) s.properties)
        (propertyLabels format (container.child name) inside
          (if root = "" ∧ inside then s.label else root) t.properties)) :
    Follows changed (s.labelEntries format container inside root)
      (t.labelEntries format container inside root) := by
  cases named : s.name? with
  | none =>
    rw [labelEntries_of_unnamed _ _ _ _ named]
    exact Follows.of_error _
  | some name =>
    have same : (if root = "" ∧ inside then t.label else root) =
        if root = "" ∧ inside then s.label else root := by
      by_cases both : root = "" ∧ inside
      · rw [if_pos both, if_pos both, handed both.1 both.2]
      · rw [if_neg both, if_neg both]
    rw [labelEntries_of_other _ _ _ _ named other,
      labelEntries_of_other _ _ _ _ (names.trans named) (kind ▸ other), same]
    refine Follows.map_cons rfl (fun unchanged => ?_) (below name named)
    simp only [fields, own name named unchanged]

/-- Of the fields in one container one is changed. -/
theorem follows_propertyLabels_modify {change : Schema → Schema} {index : Nat} {ps : List Schema}
    (step : ∀ p, ps[index]? = some p →
      Follows changed (p.labelEntries format container inside root)
        ((change p).labelEntries format container inside root)) :
    Follows changed (propertyLabels format container inside root ps)
      (propertyLabels format container inside root (ps.modify index change)) := by
  induction ps generalizing index with
  | nil =>
    rw [List.modify_nil]
    exact Follows.refl _
  | cons p ps ih =>
    cases index with
    | zero =>
      rw [List.modify_zero_cons, propertyLabels_cons, propertyLabels_cons]
      exact Follows.bind_append (step p rfl) (Follows.refl _)
    | succ index =>
      rw [List.modify_succ_cons, propertyLabels_cons, propertyLabels_cons]
      exact Follows.bind_append (Follows.refl _) (ih step)

/-- Two item schemas with fields of their own, or two without. -/
theorem follows_itemLabels {i j : Schema} {array : Path} {text : String}
    (fields : j.HasFields ↔ i.HasFields)
    (below : i.HasFields →
      Follows changed (propertyLabels format array.wildcard true text i.properties)
        (propertyLabels format array.wildcard true text j.properties)) :
    Follows changed (itemLabels format array text (some i))
      (itemLabels format array text (some j)) := by
  by_cases own : i.HasFields
  · rw [itemLabels_of_fields _ _ _ (itemProperties_eq_some_iff.mpr ⟨own, rfl⟩),
      itemLabels_of_fields _ _ _ (itemProperties_eq_some_iff.mpr ⟨fields.mpr own, rfl⟩)]
    exact below own
  · have other : ¬ j.HasFields := fun has => own (fields.mp has)
    rw [itemLabels_of_single _ _ _ (itemProperties_eq_none_iff.mpr own),
      itemLabels_of_single _ _ _ (itemProperties_eq_none_iff.mpr other)]
    exact Follows.refl _

end Pairs

end Schema

/-! ## Along the place -/

namespace Site

open Schema (Turn)

section Walk

variable (format : Formatter) (inside : Bool) (root : String) (description : Option String)

/-- What the recursion finds at a site when the node at a place below it is described
otherwise. -/
def redescribedWalk (v : Site) (place : List Turn) : Except CompileError (List (String × String)) :=
  (v.node.modifyAt (Facets.describe description) place).labelEntries format v.container
    (v.inItems inside) (v.handedText inside root)

/-- Whether another description of a node stays without consequences but for its own
label: the node is no array, and its text is not handed down. -/
def KeepsItsText (u : Site) : Prop :=
  u.node.kind ≠ some .array ∧ (u.handedText inside root = "" → u.inItems inside = false)

variable {format inside root description} {changed : String → Prop} {v : Site}

theorem follows_here (named : v.isItem = false) (own : changed v.key)
    (keeps : v.KeepsItsText inside root) :
    Follows changed (v.labelWalk format inside root)
      (v.redescribedWalk format inside root description []) := by
  obtain ⟨other, silent⟩ := keeps
  have kind := Schema.facet_modifyAt _ (Facets.kind_describe description) [] v.node
  have name := Schema.facet_modifyAt _ (Facets.name?_describe description) [] v.node
  have fields := Schema.hasFields_modifyAt _ (Facets.kind_describe description) [] v.node
  refine Schema.follows_of_other format other kind name fields
    (fun name hname unchanged => ?_) (fun empty items => ?_) fun name hname => ?_
  · rw [← path_of_name named hname] at unchanged
    exact (unchanged own).elim
  · rw [silent empty] at items
    cases items
  · rw [Schema.properties_modifyAt_nil]
    exact Follows.refl _

/-- Above the place nodes say what they said, so only what stands below them counts. -/
theorem follows_above {turn : Turn} {rest : List Turn} (named : v.isItem = false)
    (items : v.node.kind = some .array →
      Follows changed
        (Schema.itemLabels format v.path
          (if v.isNested inside then v.handedText inside root else v.node.label) v.node.items)
        (Schema.itemLabels format v.path
          (if v.isNested inside then v.handedText inside root else v.node.label)
          (v.node.modifyAt (Facets.describe description) (turn :: rest)).items))
    (properties : v.node.kind ≠ some .array →
      Follows changed
        (Schema.propertyLabels format v.path (v.inItems inside)
          (if v.handedText inside root = "" ∧ v.inItems inside then v.node.label
            else v.handedText inside root) v.node.properties)
        (Schema.propertyLabels format v.path (v.inItems inside)
          (if v.handedText inside root = "" ∧ v.inItems inside then v.node.label
            else v.handedText inside root)
          (v.node.modifyAt (Facets.describe description) (turn :: rest)).properties)) :
    Follows changed (v.labelWalk format inside root)
      (v.redescribedWalk format inside root description (turn :: rest)) := by
  have facets := Schema.facets_modifyAt_cons (Facets.describe description) v.node turn rest
  have kind := congrArg Facets.kind facets
  have name := congrArg Facets.name? facets
  have label := congrArg Facets.label facets
  have fields :=
    Schema.hasFields_modifyAt _ (Facets.kind_describe description) (turn :: rest) v.node
  by_cases array : v.node.kind = some .array
  · refine Schema.follows_of_array format array kind name label fun name hname => ?_
    rw [← path_of_name named hname]
    exact items array
  · refine Schema.follows_of_other format array kind name fields (fun _ _ _ => label)
      (fun _ _ => label) fun name hname => ?_
    rw [← path_of_name named hname]
    exact properties array

/-- Another description at a place is followed by the same labels but for some, if the label
of the site at the place is one of these and keeps its text to itself. The recursion is along
the place: a walk that leaves it on the way never meets the node. -/
theorem follows_redescribed : ∀ (place : List Turn) (v : Site), v.isItem = false →
    v.isBuried = false →
    (∀ u : Site, v.at? place = some u → u.isItem = false → u.isBuried = false →
      changed u.key ∧ u.KeepsItsText inside root) →
    Follows changed (v.labelWalk format inside root)
      (v.redescribedWalk format inside root description place)
  | [], v, named, shallow, here => by
    obtain ⟨own, keeps⟩ := here v rfl named shallow
    exact follows_here named own keeps
  | .property index :: rest, v, named, shallow, there => by
    refine follows_above named (fun _ => ?_) fun other => ?_
    · rw [Schema.items_modifyAt_property]
      exact Follows.refl _
    · rw [Schema.properties_modifyAt_property]
      refine Schema.follows_propertyLabels_modify format fun p hp => ?_
      have open_below : (property v p).isBuried = false :=
        Bool.or_eq_false_iff.mpr ⟨named, shallow⟩
      exact follows_redescribed rest (property v p) rfl open_below fun u hu =>
        there u (at?_property other hp ▸ hu)
  | .items :: rest, v, named, shallow, there => by
    refine follows_above named (fun array => ?_) fun _ => ?_
    · rw [Schema.items_modifyAt_items]
      cases hi : v.node.items with
      | none => exact Follows.refl _
      | some i =>
        refine Schema.follows_itemLabels format
          (Schema.hasFields_modifyAt _ (Facets.kind_describe description) rest i) fun own => ?_
        -- an item schema with fields is no site, and only a turn to one of its fields is taken
        match rest, there with
        | [], _ =>
          rw [Schema.properties_modifyAt_nil]
          exact Follows.refl _
        | .items :: rest, _ =>
          rw [Schema.properties_modifyAt_items]
          exact Follows.refl _
        | .property index :: rest, there =>
          rw [Schema.properties_modifyAt_property]
          refine Schema.follows_propertyLabels_modify format fun p hp => ?_
          have open_below : (field v i p).isBuried = false :=
            Bool.or_eq_false_iff.mpr ⟨named, shallow⟩
          exact follows_redescribed rest (field v i p) rfl open_below fun u hu =>
            there u (at?_field array hi own hp ▸ hu)
    · rw [Schema.properties_modifyAt_items]
      exact Follows.refl _

end Walk

/-- A node that is no array keeps its text to itself where nothing is left for it to stand in
for: outside arrays, and where something above it has a text to lend. -/
theorem keepsItsText_of_lender {s : Schema} {container : Path} {required : NameSet} {v : Site}
    (hv : v ∈ (top container required s).preorder) (shallow : v.isBuried = false)
    (other : v.node.kind ≠ some .array)
    (lender : v.arrays ≠ [] → ∃ a ∈ v.ancestors, a.LendsText ∧ a.node.label ≠ "") :
    v.KeepsItsText false "" := by
  refine ⟨other, fun silent => ?_⟩
  by_contra inside
  obtain ⟨a, ha, lends, text⟩ := lender ((inItems_iff hv).mp (Bool.not_eq_false _ ▸ inside))
  exact text ((handedText_eq_empty_iff hv shallow).mp silent a ha lends)

end Site

namespace Schema

/-- Tables made of entries that follow one another have the same keys, and the same labels
under all but some of them. -/
theorem labels_of_follows {changed : String → Prop} {format : Formatter} {s t : Schema}
    {table : LabelTable}
    (follows : Follows changed (s.labelEntries format Path.root false "")
      (t.labelEntries format Path.root false ""))
    (labelled : s.labels format = .ok table) :
    ∃ other, t.labels format = .ok other ∧ other.keys = table.keys ∧
      ∀ key, ¬ changed key → other.get? key = table.get? key := by
  rw [labels, labelsIn] at labelled
  cases walked : s.labelEntries format Path.root false "" with
  | error e =>
    rw [walked] at labelled
    cases labelled
  | ok entries =>
    rw [walked] at labelled
    cases labelled
    obtain ⟨others, again, agree⟩ := follows entries walked
    refine ⟨Table.ofFirst others, ?_, (agree.keys_insertAll_eq rfl).symm, fun key unchanged => ?_⟩
    · rw [labels, labelsIn, again]
      rfl
    · rw [Table.get?_ofFirst, Table.get?_ofFirst, agree.lookup_eq unchanged]

/-- A node that is no array does not stand in for an array. Another description of the node
changes no label but the one under its own key, as long as the node stands outside arrays or
below something that has a text to lend. It changes no label at all where the node is no
site. -/
theorem redescription_stays_local (format : Formatter) (s n : Schema) (place : List Turn)
    (description : Option String) (table : LabelTable) (there : s.at? place = some n)
    (other : n.kind ≠ some .array)
    (lender : ∀ v, (Site.top Path.root NameSet.empty s).at? place = some v → v.isBuried = false →
      v.arrays ≠ [] → ∃ a ∈ v.ancestors, a.LendsText ∧ a.node.label ≠ "")
    (labelled : s.labels format = .ok table) :
    ∃ redescribed,
      (s.modifyAt (Facets.describe description) place).labels format = .ok redescribed ∧
      redescribed.keys = table.keys ∧
      ∀ key, (∀ v, (Site.top Path.root NameSet.empty s).at? place = some v → key ≠ v.key) →
        redescribed.get? key = table.get? key := by
  have follows : Follows
      (fun key => ∃ v, (Site.top Path.root NameSet.empty s).at? place = some v ∧ key = v.key)
      (s.labelEntries format Path.root false "")
      ((s.modifyAt (Facets.describe description) place).labelEntries format Path.root false
        "") := by
    refine Site.follows_redescribed place (Site.top Path.root NameSet.empty s) rfl rfl
      fun v hv _ shallow => ⟨⟨v, hv, rfl⟩, ?_⟩
    obtain ⟨below, node⟩ := Site.of_at?_eq_some hv
    rw [Option.some.inj (there.symm.trans node)] at other
    exact Site.keepsItsText_of_lender below shallow other (lender v hv shallow)
  obtain ⟨redescribed, again, keys, same⟩ := labels_of_follows follows labelled
  refine ⟨redescribed, again, keys, fun key apart => same key ?_⟩
  rintro ⟨v, hv, eq⟩
  exact apart v hv eq

/-- The address of an order may say what it likes: the lines below it name the orders. -/
theorem lines_of_redescribed_orders :
    ∃ redescribed,
      (orders.modifyAt (Facets.describe (some "Ship to")) [.items, .property 0]).labels listing =
        .ok redescribed ∧
      redescribed.get? "orders.*.address.lines" =
        some "nested_array_item Orders lines :position" := by
  obtain ⟨table, labelled⟩ : ∃ table, orders.labels listing = .ok table := ⟨_, rfl⟩
  have line : table.get? "orders.*.address.lines" =
      some "nested_array_item Orders lines :position" := by
    cases labelled
    decide
  obtain ⟨redescribed, again, -, same⟩ := redescription_stays_local listing orders _
    [.items, .property 0] (some "Ship to") table rfl (by decide) (fun v hv _ _ => by
      cases hv
      exact ⟨_, List.mem_singleton_self _, by decide, by decide⟩) labelled
  refine ⟨redescribed, again, ?_⟩
  rw [same "orders.*.address.lines" fun v hv => by cases hv; decide, line]

/-- Orders that say nothing, with an address each. -/
def silentOrders : Schema :=
  node { kind := some .array, key := some "orders", description := some "" } [] <| some <|
    node { kind := some .object }
      [node { kind := some .object, key := some "address", description := some "shipping address" }
        [node { kind := some .string, key := some "zip" } [] none] none] none

/-- An array with an empty text does not keep an object inside from standing in for it:
with another description of the address, the zip below has another label. -/
theorem object_stands_in :
    ¬ ∀ (format : Formatter) (s n : Schema) (place : List Turn) (text : String)
      (table redescribed : LabelTable), s.PlainNames → s.at? place = some n →
      n.kind ≠ some .array → n.HasFields → s.labels format = .ok table →
      (s.modifyAt (Facets.describe (some text)) place).labels format = .ok redescribed →
      ∀ key, (∀ v, (Site.top Path.root NameSet.empty s).at? place = some v → key ≠ v.key) →
        redescribed.get? key = table.get? key := by
  intro local_text
  have same := local_text listing silentOrders _ [.items, .property 0] "" _ _ (by decide) rfl
    (by decide) (Or.inl rfl) rfl rfl "orders.*.address.zip" (fun v hv => by cases hv; decide)
  revert same
  decide

end Schema

end PayloadRules
