import Predictor.Prediction
import Predictor.Proofs.Id
import Predictor.Proofs.Json.Strings
import Predictor.Proofs.Json.WireFormat
import Predictor.Proofs.Time.Rfc3339

/-!
Labels and predictions in JSON. Whatever form a text had, the record that is read from it is written
in one form, and that form is read as the same record, with the confidence as its digits are read
(`Label.ofBytes?_render`, `Prediction.ofBytes?_render`). A null member says no more than an absent one
(`Prediction.ofTree?_addsNull`). Main statement: `Prediction.canonical_json`.
-/

namespace Predictor

open Json

namespace Json

/-! ## Members by name -/

/-- Printable ASCII without quotes and backslashes. -/
def IsPlain (name : String) : Prop :=
  ∀ b ∈ bytesOf name, 32 ≤ b ∧ b.toNat < 128 ∧ b ≠ 34 ∧ b ≠ 92

instance (name : String) : Decidable (IsPlain name) :=
  inferInstanceAs (Decidable (∀ b ∈ bytesOf name, _))

theorem escape_of_plain {name : String} (h : IsPlain name) : escape (bytesOf name) = bytesOf name := by
  unfold IsPlain at h
  generalize bytesOf name = bytes at h
  induction bytes with
  | nil => rfl
  | cons b rest ih =>
    obtain ⟨⟨hlow, -, hquote, hslash⟩, hrest⟩ := List.forall_mem_cons.1 h
    have hbyte : escapeByte b = [b] := by
      have hlarge : ¬b.toNat < 32 := Nat.not_lt.2 (UInt8.le_iff_toNat_le.1 hlow)
      unfold escapeByte
      split
      case h_1 h => exact absurd (UInt8.toNat_inj.1 h) hquote
      case h_2 h => exact absurd (UInt8.toNat_inj.1 h) hslash
      case h_8 => exact if_neg hlarge
      all_goals omega
    rw [escape_cons, hbyte]
    exact congrArg (b :: ·) (ih hrest)

theorem denoted?_of_plain {name : String} (h : IsPlain name) : denoted? (bytesOf name) = some name := by
  have hread := denoted?_escape name
  rwa [escape_of_plain h] at hread

namespace Tree

/-- An object with members of these names. -/
def ofMembers (members : List (String × Tree)) : Tree :=
  .object (members.map fun m => (bytesOf m.1, m.2))

theorem wellFormed_ofMembers {members : List (String × Tree)}
    (h : ∀ m ∈ members, IsPlain m.1 ∧ m.2.WellFormed) : (ofMembers members).WellFormed := by
  rw [ofMembers, WellFormed]
  induction members with
  | nil => trivial
  | cons m rest ih =>
    obtain ⟨⟨hname, hm⟩, hrest⟩ := List.forall_mem_cons.1 h
    exact ⟨quotable_of_plain hname, hm, ih hrest⟩

theorem keyed?_ofMembers {members : List (String × Tree)} (h : ∀ m ∈ members, IsPlain m.1) :
    keyed? (members.map fun m => (bytesOf m.1, m.2)) = some members := by
  have hread := RawResult.mapM_some (f := fun m : String × Tree => (bytesOf m.1, m.2))
    (g := fun m => (denoted? m.1).map fun key => (key, m.2)) (h := id) (l := members) (by
      intro m hm
      simp [denoted?_of_plain (h m hm)])
  rw [List.map_id] at hread
  exact hread

theorem wellFormed_ofOption {α : Type} {write : α → Tree} {part : Option α}
    (h : ∀ a ∈ part, (write a).WellFormed) : (ofOption write part).WellFormed := by
  cases part with
  | none =>
    rw [ofOption, WellFormed]
    trivial
  | some a => exact h a rfl

theorem ofText_ne_null (s : String) : ofText s ≠ .null := by
  simp [ofText]

/-- A part is read back when what is written for it is not null. -/
theorem optional?_ofOption {α : Type} {read : Tree → Option α} {write : α → Tree} {f : α → α}
    {part : Option α} (hnull : ∀ a ∈ part, write a ≠ .null)
    (h : ∀ a ∈ part, read (write a) = some (f a)) :
    optional? read (some (ofOption write part)) = some (part.map f) := by
  cases part with
  | none => rfl
  | some a =>
    have ha := h a rfl
    have hne := hnull a rfl
    rw [ofOption]
    have hread : optional? read (some (write a)) = (read (write a)).map some := by
      cases hw : write a with
      | null => exact absurd hw hne
      | _ => rfl
    rw [hread, ha]
    rfl

end Tree

end Json

/-! ## Labels -/

namespace Label

/-- The label that is read where `label` is written. -/
def reread : Label → Label
  | .category index name confidence => .category index name confidence.reread
  | .undefined => .undefined

/-- The confidence, if there is a category, is a finite number. -/
def IsFinite (label : Label) : Prop :=
  ∀ index name confidence, label = .category index name confidence → confidence.isFinite = true

/-- The number that is written for the confidence, if there is one, reads back as it. -/
def ReadsBack (label : Label) : Prop :=
  ∀ index name confidence, label = .category index name confidence →
    (Tree.ofDouble confidence).double? = some confidence

theorem reread_eq_undefined_iff {label : Label} : label.reread = .undefined ↔ label = .undefined := by
  cases label with
  | category => simp [reread]
  | undefined => simp [reread]

theorem reread_eq {label : Label} (hfinite : label.IsFinite) (h : label.ReadsBack) :
    label.reread = label := by
  cases label with
  | undefined => rfl
  | category index name confidence =>
    have hread := h index name confidence rfl
    rw [RawResult.double?_ofDouble (hfinite index name confidence rfl)] at hread
    rw [reread, Option.some.inj hread]

theorem word32?_index (index : UInt32) : (Tree.ofNat index.toNat).word32? = some index :=
  RawResult.readIndex?_toString index

/-- An index has a value among the numbers too. -/
theorem double?_index (index : UInt32) : ∃ x, (Tree.ofNat index.toNat).double? = some x := by
  have hdigits := Numeral.digits_toDigits index.toNat
  have hlt : index.toNat < 0x100000000 := index.toNat_lt
  have hexponent : ∀ e ∈ (none : Option Int), e.natAbs ≤ 1000 := by simp
  have hread := Numeral.double?_spell false hdigits
    (RawResult.leads_index index) (fun c hc => absurd hc List.not_mem_nil)
    (by
      rw [List.append_nil, Nat.ofDigitChars_ten_toDigits]
      exact Nat.le_trans (Nat.le_of_lt hlt) (by decide))
    (by simp) hexponent
  rw [List.append_nil, Nat.ofDigitChars_ten_toDigits,
    Numeral.scaledByPower?_exact (Nat.lt_trans hlt (by decide)) (by decide) (by decide)] at hread
  have hspelled : Numeral.spell (Nat.toDigits 10 index.toNat) [] none =
      Nat.toDigits 10 index.toNat := by
    simp [Numeral.spell, Numeral.spellExponent]
  rw [hspelled] at hread
  exact ⟨_, hread⟩

theorem wellFormed_of_double? {text : Bytes} {x : Binary64}
    (h : (Tree.number text).double? = some x) : (Tree.number text).WellFormed := by
  obtain ⟨n, hn, -⟩ := Option.bind_eq_some_iff.1 h
  rw [Tree.WellFormed, hn]
  rfl

/-! ### Writing -/

theorem toTree_ne_null (label : Label) : label.toTree ≠ .null := by
  cases label <;> simp [toTree]

theorem wellFormed_toTree (label : Label) : label.toTree.WellFormed := by
  cases label with
  | undefined =>
    change (Tree.ofMembers [("kind", Tree.ofText "undefined")]).WellFormed
    refine Tree.wellFormed_ofMembers ?_
    simp only [List.forall_mem_cons, List.not_mem_nil, false_imp_iff, implies_true, and_true]
    exact ⟨by decide +kernel, Tree.wellFormed_ofText _⟩
  | category index name confidence =>
    change (Tree.ofMembers [("kind", Tree.ofText "category"), ("index", Tree.ofNat index.toNat),
      ("name", Tree.ofText name), ("confidence", Tree.ofDouble confidence)]).WellFormed
    refine Tree.wellFormed_ofMembers ?_
    obtain ⟨x, hx⟩ := double?_index index
    simp only [List.forall_mem_cons, List.not_mem_nil, false_imp_iff, implies_true, and_true]
    exact ⟨⟨by decide +kernel, Tree.wellFormed_ofText _⟩,
      ⟨by decide +kernel, wellFormed_of_double? hx⟩,
      ⟨by decide +kernel, Tree.wellFormed_ofText _⟩,
      by decide +kernel, RawResult.wellFormed_ofDouble confidence⟩

/-! ### Reading -/

theorem isSound_ofText (s : String) : (Tree.ofText s).isSound = true := by
  have hread := Tree.text?_ofText s
  rw [Tree.ofText, Tree.text?] at hread
  rw [Tree.ofText, Tree.isSound, hread]
  rfl

theorem isSound_of_double? {t : Tree} {x : Binary64} (h : t.double? = some x) : t.isSound = true := by
  cases t with
  | number text =>
    rw [Tree.double?] at h
    rw [Tree.isSound, h]
    rfl
  | _ => simp [Tree.double?] at h

/-- A label of members, the kind first. -/
theorem ofTree?_ofMembers (kind : String) (rest : List (String × Tree)) {outside : Nat}
    (hnames : ∀ m ∈ rest, IsPlain m.1) (hkind : ∀ m ∈ rest, m.1 ≠ "kind")
    (hsound : (Tree.ofMembers (("kind", Tree.ofText kind) :: rest)).isSound = true)
    (hdepth : outside + (Tree.ofMembers (("kind", Tree.ofText kind) :: rest)).depth ≤ maxDepth) :
    ofTree? outside (Tree.ofMembers (("kind", Tree.ofText kind) :: rest)) =
      ofMembers? kind (("kind", Tree.ofText kind) :: rest) := by
  have hplain : IsPlain "kind" := by decide +kernel
  have hall : ∀ m ∈ ("kind", Tree.ofText kind) :: rest, IsPlain m.1 :=
    List.forall_mem_cons.2 ⟨hplain, hnames⟩
  have hkeyed := Tree.keyed?_ofMembers hall
  have hmember : Tree.member? "kind" (("kind", Tree.ofText kind) :: rest) =
      some (some (Tree.ofText kind)) := by
    have hrest : rest.filter (fun m => m.1 == "kind") = [] := by
      simpa [List.filter_eq_nil_iff] using hkind
    simp [Tree.member?, hrest]
  rw [Tree.ofMembers] at hsound hdepth ⊢
  rw [ofTree?, if_neg (by rw [hsound, Bool.not_true, Bool.or_false, decide_eq_true_iff]
                          exact Nat.not_lt.2 hdepth)]
  simp only [hkeyed, hmember, Option.bind_eq_bind, Option.bind_some, Tree.text?_ofText]

/-- Containers may stand around a label, as many as leave room for its own one. -/
theorem ofTree?_toTree {label : Label} (h : label.IsFinite) {outside : Nat}
    (hdepth : outside < maxDepth) : ofTree? outside label.toTree = some label.reread := by
  cases label with
  | undefined =>
    refine (ofTree?_ofMembers "undefined" [] (by simp) (by simp) ?_ hdepth).trans ?_
    · decide +kernel
    · rfl
  | category index name confidence =>
    have hconfidence := RawResult.double?_ofDouble (h index name confidence rfl)
    obtain ⟨x, hx⟩ := double?_index index
    have hnumbers : (Tree.ofNat index.toNat).depth = 0 ∧ (Tree.ofDouble confidence).depth = 0 := by
      rw [Tree.ofDouble]
      split <;> exact ⟨rfl, rfl⟩
    refine (ofTree?_ofMembers "category" [("index", Tree.ofNat index.toNat),
      ("name", Tree.ofText name), ("confidence", Tree.ofDouble confidence)] ?_ ?_ ?_ ?_).trans ?_
    · simp only [List.forall_mem_cons, List.not_mem_nil, false_imp_iff, implies_true, and_true]
      decide +kernel
    · simp
    · simp only [Tree.ofMembers, List.map_cons, List.map_nil, Tree.isSound, Tree.areSoundMembers,
        isSound_ofText, isSound_of_double? hx, isSound_of_double? hconfidence]
      decide +kernel
    · simp only [Tree.ofMembers, List.map_cons, List.map_nil, Tree.depth, Tree.depthOfMembers,
        Tree.ofText, hnumbers]
      exact hdepth
    · have hparts : ofParts? (Tree.ofNat index.toNat) (Tree.ofText name) (Tree.ofDouble confidence) =
          some (.category index name confidence.reread) := by
        simp only [ofParts?, word32?_index, Tree.text?_ofText, hconfidence, Option.bind_eq_bind,
          Option.bind_some]
      exact hparts

/-- **Labels.** The text of a label is read as it, with the confidence reread. -/
theorem ofBytes?_render {label : Label} (h : label.IsFinite) :
    ofBytes? (bytesOf label.toTree.render) = some label.reread := by
  have hwell := wellFormed_toTree label
  rw [Tree.bytesOf_render hwell, ofBytes?, Tree.ofBytes?_write hwell, Option.bind_some,
    ofTree?_toTree h (by decide)]

/-! ### What can be read -/

theorem isFinite_of_ofParts? {index name confidence : Tree} {label : Label}
    (h : ofParts? index name confidence = some label) : label.IsFinite := by
  obtain ⟨i, -, h⟩ := Option.bind_eq_some_iff.1 h
  obtain ⟨s, -, h⟩ := Option.bind_eq_some_iff.1 h
  obtain ⟨x, hx, h⟩ := Option.bind_eq_some_iff.1 h
  obtain rfl := Option.some.inj h
  rintro _ _ _ ⟨⟩
  cases confidence with
  | number text =>
    obtain ⟨n, -, hn⟩ := Option.bind_eq_some_iff.1 hx
    exact Numeral.double?_isFinite hn
  | _ => simp [Tree.double?] at hx

theorem isFinite_undefined : IsFinite .undefined := by
  rintro _ _ _ ⟨⟩

theorem isFinite_of_ofMembers? {kind : String} {members : List (String × Tree)} {label : Label}
    (h : ofMembers? kind members = some label) : label.IsFinite := by
  unfold ofMembers? at h
  split at h
  · obtain rfl := Option.some.inj h
    exact isFinite_undefined
  · split at h
    · obtain ⟨_, -, h⟩ := Option.bind_eq_some_iff.1 h
      obtain ⟨_, -, h⟩ := Option.bind_eq_some_iff.1 h
      obtain ⟨_, -, h⟩ := Option.bind_eq_some_iff.1 h
      obtain ⟨_, -, h⟩ := Option.bind_eq_some_iff.1 h
      obtain ⟨_, -, h⟩ := Option.bind_eq_some_iff.1 h
      obtain ⟨_, -, h⟩ := Option.bind_eq_some_iff.1 h
      exact isFinite_of_ofParts? h
    · cases h

/-- **Accepted labels are finite.** -/
theorem isFinite_of_ofTree? {outside : Nat} {t : Tree} {label : Label}
    (h : ofTree? outside t = some label) : label.IsFinite := by
  unfold ofTree? at h
  by_cases hrefused : (decide (maxDepth < outside + t.depth) || !t.isSound) = true
  · rw [if_pos hrefused] at h
    cases h
  rw [if_neg hrefused] at h
  dsimp only at h
  split at h
  · obtain ⟨members, -, h⟩ := Option.bind_eq_some_iff.1 h
    obtain ⟨kind, -, h⟩ := Option.bind_eq_some_iff.1 h
    obtain ⟨kind, -, h⟩ := Option.bind_eq_some_iff.1 h
    obtain ⟨kind, -, h⟩ := Option.bind_eq_some_iff.1 h
    exact isFinite_of_ofMembers? h
  · obtain ⟨kind, -, h⟩ := Option.bind_eq_some_iff.1 h
    split at h
    · obtain rfl := Option.some.inj h
      exact isFinite_undefined
    · exact isFinite_of_ofParts? h
    · cases h
  · cases h

end Label

/-! ## Parts of a prediction -/

theorem Status.ofTree?_toTree (status : Status) : Status.ofTree? status.toTree = some status := by
  have hread : Status.ofTree? status.toTree = status.toTree.text?.bind Status.ofText? := rfl
  rw [hread, Status.toTree, Tree.text?_ofText]
  cases status <;> decide +kernel

theorem PredictionId.ofTree?_toTree (id : PredictionId) :
    PredictionId.ofTree? id.toTree = some id := by
  rw [PredictionId.ofTree?, PredictionId.toTree, Tree.text?_ofText, Option.bind_some,
    PredictionId.ofText?_text]

theorem Time.Instant.ofTree?_toTree {t : Time.Instant} (h : Time.Writable t) :
    Time.Instant.ofTree? t.toTree = some t := by
  rw [Time.Instant.ofTree?, Time.Instant.toTree, Tree.text?_ofText, Option.bind_some,
    Time.ofRfc3339?_rfc3339 h]

theorem Time.writable_of_ofTree? {tree : Tree} {t : Time.Instant}
    (h : Time.Instant.ofTree? tree = some t) : Time.Writable t := by
  obtain ⟨s, -, hs⟩ := Option.bind_eq_some_iff.1 h
  exact Time.writable_of_ofRfc3339? hs

theorem Json.Tree.of_optional? {α : Type} {read : Tree → Option α} {p : α → Prop}
    (hread : ∀ t a, read t = some a → p a) {part : Option Tree} {found : Option α}
    (h : optional? read part = some found) : ∀ a ∈ found, p a := by
  intro a ha
  unfold optional? at h
  split at h
  · obtain rfl := Option.some.inj h
    cases ha
  · obtain rfl := Option.some.inj h
    cases ha
  · obtain ⟨b, hb, rfl⟩ := Option.map_eq_some_iff.1 h
    obtain rfl := Option.some.inj ha
    exact hread _ _ hb

/-! ## Predictions -/

namespace Prediction

/-- The record that is read where `p` is written. -/
def reread (p : Prediction) : Prediction := { p with label := p.label.map Label.reread }

/-- The label has a finite confidence and the instants have texts. -/
structure Writable (p : Prediction) : Prop where
  label : ∀ label ∈ p.label, label.IsFinite
  createdAt : Time.Writable p.createdAt
  updatedAt : Time.Writable p.updatedAt
  completedAt : ∀ t ∈ p.completedAt, Time.Writable t

/-- The number that is written for the confidence, if there is one, reads back as it. -/
def ReadsBack (p : Prediction) : Prop := ∀ label ∈ p.label, label.ReadsBack

theorem reread_eq {p : Prediction} (hp : p.Writable) (h : p.ReadsBack) : p.reread = p := by
  have hlabel : p.label.map Label.reread = p.label := by
    cases hl : p.label with
    | none => rfl
    | some label => rw [Option.map_some, Label.reread_eq (hp.label label hl) (h label hl)]
  rw [reread, hlabel]

/-- The members of a record, in the order in which they are written. -/
def members (p : Prediction) : List (String × Tree) :=
  [("id", p.id.toTree), ("owner", Tree.ofText p.owner), ("resource", Tree.ofText p.resource),
    ("status", p.status.toTree), ("label", Tree.ofOption Label.toTree p.label),
    ("error", Tree.ofOption Tree.ofText p.error), ("created_at", p.createdAt.toTree),
    ("updated_at", p.updatedAt.toTree), ("completed_at", Tree.ofOption Time.Instant.toTree p.completedAt)]

theorem toTree_eq (p : Prediction) : p.toTree = Tree.ofMembers p.members := rfl

theorem plain_members (p : Prediction) : ∀ m ∈ p.members, IsPlain m.1 := by
  have hnames : ∀ name ∈ p.members.map Prod.fst, IsPlain name := by
    show ∀ name ∈ ["id", "owner", "resource", "status", "label", "error", "created_at", "updated_at",
      "completed_at"], IsPlain name
    decide +kernel
  intro m hm
  exact hnames m.1 (List.mem_map_of_mem hm)

theorem wellFormed_members (p : Prediction) : ∀ m ∈ p.members, m.2.WellFormed := by
  have hwell : ∀ t ∈ p.members.map Prod.snd, t.WellFormed := by
    simp only [members, List.map_cons, List.map_nil, List.forall_mem_cons, List.not_mem_nil,
      false_imp_iff, implies_true, and_true]
    exact ⟨Tree.wellFormed_ofText _, Tree.wellFormed_ofText _, Tree.wellFormed_ofText _,
      Tree.wellFormed_ofText _, Tree.wellFormed_ofOption fun label _ => label.wellFormed_toTree,
      Tree.wellFormed_ofOption fun _ _ => Tree.wellFormed_ofText _, Tree.wellFormed_ofText _,
      Tree.wellFormed_ofText _, Tree.wellFormed_ofOption fun _ _ => Tree.wellFormed_ofText _⟩
  intro m hm
  exact hwell m.2 (List.mem_map_of_mem hm)

theorem wellFormed_toTree (p : Prediction) : p.toTree.WellFormed :=
  Tree.wellFormed_ofMembers fun m hm => ⟨p.plain_members m hm, p.wellFormed_members m hm⟩

theorem ofParts?_toTree {p : Prediction} (h : p.Writable) :
    ofParts? p.id.toTree (Tree.ofText p.owner) (Tree.ofText p.resource) p.status.toTree
      (some (Tree.ofOption Label.toTree p.label)) (some (Tree.ofOption Tree.ofText p.error))
      p.createdAt.toTree p.updatedAt.toTree (some (Tree.ofOption Time.Instant.toTree p.completedAt)) =
      some p.reread := by
  have hlabel : Tree.optional? (Label.ofTree? 1) (some (Tree.ofOption Label.toTree p.label)) =
      some (p.label.map Label.reread) :=
    Tree.optional?_ofOption (fun label _ => label.toTree_ne_null) fun label hl =>
      Label.ofTree?_toTree (h.label label hl) (by decide)
  have herror : Tree.optional? Tree.text? (some (Tree.ofOption Tree.ofText p.error)) =
      some (p.error.map fun s => s) :=
    Tree.optional?_ofOption (fun s _ => Tree.ofText_ne_null s) fun s _ => Tree.text?_ofText s
  have hcompleted : Tree.optional? Time.Instant.ofTree?
      (some (Tree.ofOption Time.Instant.toTree p.completedAt)) = some (p.completedAt.map fun t => t) :=
    Tree.optional?_ofOption (fun t _ => Tree.ofText_ne_null t.rfc3339) fun t ht =>
      Time.Instant.ofTree?_toTree (h.completedAt t ht)
  rw [Option.map_id'] at herror hcompleted
  simp only [ofParts?, PredictionId.ofTree?_toTree, Tree.text?_ofText, Status.ofTree?_toTree, hlabel,
    herror, Time.Instant.ofTree?_toTree h.createdAt, Time.Instant.ofTree?_toTree h.updatedAt,
    hcompleted, Option.bind_eq_bind, Option.bind_some]
  rfl

theorem ofTree?_toTree {p : Prediction} (h : p.Writable) : ofTree? p.toTree = some p.reread := by
  have hkeyed := Tree.keyed?_ofMembers p.plain_members
  rw [toTree_eq, Tree.ofMembers, ofTree?, hkeyed]
  exact ofParts?_toTree h

/-- **Predictions.** The text of a record is read as it, with the confidence reread. -/
theorem ofBytes?_render {p : Prediction} (h : p.Writable) :
    ofBytes? (bytesOf p.toTree.render) = some p.reread := by
  have hwell := wellFormed_toTree p
  rw [Tree.bytesOf_render hwell, ofBytes?, Tree.ofBytes?_write hwell, Option.bind_some,
    ofTree?_toTree h]

/-! ### What can be read -/

theorem writable_of_ofParts? {id owner resource status createdAt updatedAt : Tree}
    {label error completedAt : Option Tree} {p : Prediction}
    (h : ofParts? id owner resource status label error createdAt updatedAt completedAt = some p) :
    p.Writable := by
  obtain ⟨id, -, h⟩ := Option.bind_eq_some_iff.1 h
  obtain ⟨owner, -, h⟩ := Option.bind_eq_some_iff.1 h
  obtain ⟨resource, -, h⟩ := Option.bind_eq_some_iff.1 h
  obtain ⟨status, -, h⟩ := Option.bind_eq_some_iff.1 h
  obtain ⟨label, hlabel, h⟩ := Option.bind_eq_some_iff.1 h
  obtain ⟨error, -, h⟩ := Option.bind_eq_some_iff.1 h
  obtain ⟨createdAt, hcreated, h⟩ := Option.bind_eq_some_iff.1 h
  obtain ⟨updatedAt, hupdated, h⟩ := Option.bind_eq_some_iff.1 h
  obtain ⟨completedAt, hcompleted, h⟩ := Option.bind_eq_some_iff.1 h
  obtain rfl := Option.some.inj h
  exact {
    label := Tree.of_optional? (fun _ _ => Label.isFinite_of_ofTree?) hlabel
    createdAt := Time.writable_of_ofTree? hcreated
    updatedAt := Time.writable_of_ofTree? hupdated
    completedAt := Tree.of_optional? (fun _ _ => Time.writable_of_ofTree?) hcompleted }

/-- **Accepted predictions can be written.** -/
theorem writable_of_ofTree? {t : Tree} {p : Prediction} (h : ofTree? t = some p) : p.Writable := by
  unfold ofTree? at h
  split at h
  · obtain ⟨members, -, h⟩ := Option.bind_eq_some_iff.1 h
    obtain ⟨id, -, h⟩ := Option.bind_eq_some_iff.1 h
    obtain ⟨owner, -, h⟩ := Option.bind_eq_some_iff.1 h
    obtain ⟨resource, -, h⟩ := Option.bind_eq_some_iff.1 h
    obtain ⟨status, -, h⟩ := Option.bind_eq_some_iff.1 h
    obtain ⟨label, -, h⟩ := Option.bind_eq_some_iff.1 h
    obtain ⟨error, -, h⟩ := Option.bind_eq_some_iff.1 h
    obtain ⟨createdAt, -, h⟩ := Option.bind_eq_some_iff.1 h
    obtain ⟨updatedAt, -, h⟩ := Option.bind_eq_some_iff.1 h
    obtain ⟨completedAt, -, h⟩ := Option.bind_eq_some_iff.1 h
    obtain ⟨id, -, h⟩ := Option.bind_eq_some_iff.1 h
    obtain ⟨owner, -, h⟩ := Option.bind_eq_some_iff.1 h
    obtain ⟨resource, -, h⟩ := Option.bind_eq_some_iff.1 h
    obtain ⟨status, -, h⟩ := Option.bind_eq_some_iff.1 h
    obtain ⟨createdAt, -, h⟩ := Option.bind_eq_some_iff.1 h
    obtain ⟨updatedAt, -, h⟩ := Option.bind_eq_some_iff.1 h
    exact writable_of_ofParts? h
  · exact writable_of_ofParts? h
  · cases h

/-! ### Absent and null members -/

/-- The second object has one member more: a null one of this name, which the first one does not have.
It may stand anywhere and its key may be spelled in any way. -/
inductive AddsNull (name : String) : Tree → Tree → Prop
  | intro (front back : List (Bytes × Tree)) (key : Bytes) (named : denoted? key = some name)
      (absent : ∀ m ∈ front ++ back, denoted? m.1 ≠ some name) :
      AddsNull name (.object (front ++ back)) (.object (front ++ (key, .null) :: back))

/-- The members that may be absent. -/
def optionalNames : List String := ["label", "error", "completed_at"]

theorem keyed?_append (front back : List (Bytes × Tree)) : Tree.keyed? (front ++ back) =
    (Tree.keyed? front).bind fun members => (Tree.keyed? back).map (members ++ ·) := by
  simp only [Tree.keyed?, List.mapM_append, Option.map_eq_bind]
  rfl

theorem keyed?_cons (key : Bytes) (t : Tree) (rest : List (Bytes × Tree)) :
    Tree.keyed? ((key, t) :: rest) =
      (denoted? key).bind fun name => (Tree.keyed? rest).map ((name, t) :: ·) := by
  simp only [Tree.keyed?, List.mapM_cons, Option.map_eq_bind]
  cases denoted? key with
  | none => rfl
  | some name => rfl

/-- The names of members are what their keys denote. -/
theorem keyed?_names {members : List (Bytes × Tree)} {named : List (String × Tree)} {name : String}
    (h : Tree.keyed? members = some named) (absent : ∀ m ∈ members, denoted? m.1 ≠ some name) :
    ∀ m ∈ named, m.1 ≠ name := by
  rintro m hm rfl
  obtain ⟨b, hb, hread⟩ := RawResult.mem_of_mapM h hm
  obtain ⟨key, hkey, rfl⟩ := Option.map_eq_some_iff.1 hread
  exact absent b hb hkey

theorem member?_of_absent {name : String} {members : List (String × Tree)}
    (absent : ∀ m ∈ members, m.1 ≠ name) : Tree.member? name members = some none := by
  have hfilter : members.filter (fun m => m.1 == name) = [] := by
    simpa [List.filter_eq_nil_iff] using absent
  rw [Tree.member?, hfilter]

theorem member?_insert {name : String} {front back : List (String × Tree)} (t : Tree)
    (absent : ∀ m ∈ front ++ back, m.1 ≠ name) :
    Tree.member? name (front ++ (name, t) :: back) = some (some t) := by
  have hfilter : (front ++ (name, t) :: back).filter (fun m => m.1 == name) = [(name, t)] := by
    have hparts : front.filter (fun m => m.1 == name) = [] ∧
        back.filter (fun m => m.1 == name) = [] := by
      simpa [List.filter_eq_nil_iff, forall_and, or_imp] using absent
    simp [List.filter_append, hparts]
  rw [Tree.member?, hfilter]

theorem member?_insert_other {name other : String} (front back : List (String × Tree)) (t : Tree)
    (hne : other ≠ name) :
    Tree.member? name (front ++ (other, t) :: back) = Tree.member? name (front ++ back) := by
  have hfilter : (front ++ (other, t) :: back).filter (fun m => m.1 == name) =
      (front ++ back).filter fun m => m.1 == name := by
    simp [List.filter_append, hne]
  rw [Tree.member?, hfilter, ← Tree.member?]

/-- A record of members whose names are read. -/
def ofMembers? (members : List (String × Tree)) : Option Prediction := do
  let id ← Tree.member? "id" members
  let owner ← Tree.member? "owner" members
  let resource ← Tree.member? "resource" members
  let status ← Tree.member? "status" members
  let label ← Tree.member? "label" members
  let error ← Tree.member? "error" members
  let createdAt ← Tree.member? "created_at" members
  let updatedAt ← Tree.member? "updated_at" members
  let completedAt ← Tree.member? "completed_at" members
  ofParts? (← id) (← owner) (← resource) (← status) label error (← createdAt) (← updatedAt)
    completedAt

theorem ofTree?_object (members : List (Bytes × Tree)) :
    ofTree? (.object members) = (Tree.keyed? members).bind ofMembers? := rfl

theorem ofMembers?_null {name : String} {front back : List (String × Tree)}
    (hname : name ∈ optionalNames) (absent : ∀ m ∈ front ++ back, m.1 ≠ name) :
    ofMembers? (front ++ (name, .null) :: back) = ofMembers? (front ++ back) := by
  have hbefore := member?_of_absent absent
  have hafter := member?_insert .null absent
  have hother : ∀ n, name ≠ n → Tree.member? n (front ++ (name, .null) :: back) =
      Tree.member? n (front ++ back) := fun n hne => member?_insert_other front back .null hne
  simp only [optionalNames, List.mem_cons, List.not_mem_nil, or_false] at hname
  -- Both members of the name are read as no part at all.
  rcases hname with rfl | rfl | rfl
  all_goals
    unfold ofMembers?
    simp (disch := decide) only [hother, hafter, hbefore]
    rfl

theorem ofTree?_addsNull {name : String} {t t' : Tree} (hname : name ∈ optionalNames)
    (h : AddsNull name t t') : ofTree? t' = ofTree? t := by
  obtain ⟨front, back, key, named, absent⟩ := h
  simp only [ofTree?_object, keyed?_append, keyed?_cons, named, Option.bind_some]
  cases hfront : Tree.keyed? front with
  | none => rfl
  | some f =>
    cases hback : Tree.keyed? back with
    | none => rfl
    | some b =>
      have hboth : Tree.keyed? (front ++ back) = some (f ++ b) := by
        rw [keyed?_append, hfront, hback]
        rfl
      exact ofMembers?_null hname (keyed?_names hboth absent)

/-- Members by name, with a null one more. -/
theorem addsNull_ofMembers {name : String} {front back : List (String × Tree)} (hname : IsPlain name)
    (hplain : ∀ m ∈ front ++ back, IsPlain m.1) (absent : ∀ m ∈ front ++ back, m.1 ≠ name) :
    AddsNull name (Tree.ofMembers (front ++ back)) (Tree.ofMembers (front ++ (name, .null) :: back)) := by
  rw [Tree.ofMembers, Tree.ofMembers, List.map_append, List.map_append, List.map_cons]
  refine .intro _ _ _ (denoted?_of_plain hname) ?_
  rw [← List.map_append]
  intro b hb hread
  obtain ⟨m, hm, rfl⟩ := List.mem_map.1 hb
  rw [denoted?_of_plain (hplain m hm)] at hread
  exact absent m hm (Option.some.inj hread)

/-! ### Canonical texts -/

/-- What `again`, which is read from the text of a label, has in common with it. -/
structure KeepsLabel (label again : Label) : Prop where
  read : Label.ofBytes? (bytesOf label.toTree.render) = some again
  undefined_iff : again = .undefined ↔ label = .undefined
  category_iff : ∀ index name, (∃ confidence, again = .category index name confidence) ↔
    ∃ confidence, label = .category index name confidence
  same : label.ReadsBack → again = label ∧ again.toTree.render = label.toTree.render

/-- What `again`, which is read from the text of a record, has in common with it. -/
structure Keeps (p again : Prediction) : Prop where
  read : ofBytes? (bytesOf p.toTree.render) = some again
  /-- All is the same but for the confidence. -/
  eq_reread : again = p.reread
  same : p.ReadsBack → again = p ∧ again.toTree.render = p.toTree.render

theorem keepsLabel_reread {label : Label} (h : label.IsFinite) : KeepsLabel label label.reread where
  read := Label.ofBytes?_render h
  undefined_iff := Label.reread_eq_undefined_iff
  category_iff := by
    intro index name
    cases label with
    | undefined => simp [Label.reread]
    | category index' name' confidence => simp [Label.reread]
  same := by
    intro hreads
    rw [Label.reread_eq h hreads]
    exact ⟨rfl, rfl⟩

theorem keeps_reread {p : Prediction} (h : p.Writable) : Keeps p p.reread where
  read := ofBytes?_render h
  eq_reread := rfl
  same := by
    intro hreads
    rw [reread_eq h hreads]
    exact ⟨rfl, rfl⟩

/-- **Canonical texts.** Every text that is accepted as a record gives one whose own text is accepted
again, as the same record with the same text if the confidence reads back as it was written; in any
case all but the confidence is the same. So it is with labels, and there the two kinds are told apart
whatever the names are. A null member counts as an absent one. -/
theorem canonical_json :
    (∀ (bytes : Bytes) (p : Prediction), ofBytes? bytes = some p → ∃ again, Keeps p again) ∧
    (∀ (bytes : Bytes) (label : Label), Label.ofBytes? bytes = some label →
      ∃ again, KeepsLabel label again) ∧
    ∀ name ∈ optionalNames, ∀ (bytes bytes' : Bytes) (t t' : Tree), Tree.ofBytes? bytes = some t →
      Tree.ofBytes? bytes' = some t' → AddsNull name t t' → ofBytes? bytes' = ofBytes? bytes := by
  refine ⟨?_, ?_, ?_⟩
  · intro bytes p h
    obtain ⟨t, -, ht⟩ := Option.bind_eq_some_iff.1 h
    exact ⟨p.reread, keeps_reread (writable_of_ofTree? ht)⟩
  · intro bytes label h
    obtain ⟨t, -, ht⟩ := Option.bind_eq_some_iff.1 h
    exact ⟨label.reread, keepsLabel_reread (Label.isFinite_of_ofTree? ht)⟩
  · intro name hname bytes bytes' t t' ht ht' hnull
    rw [ofBytes?, ofBytes?, ht, ht', Option.bind_some, Option.bind_some,
      ofTree?_addsNull hname hnull]

/-- A text with members in another order, escapes, an id after `urn:uuid:`, a second 60, an offset
that leads into another year, and a category that is called `undefined`. -/
def unusualText : String :=
  "\x7b \"created_at\":\"2016-12-31T19:59:60.5-04:00\",\"updated_at\":\"2017-1-1 0:30:00.000000001+01:00\"," ++
  "\"completed_at\":\"+2017-01-01t00:00:00utc\",\"id\":\"urn:uuid:F81D4FAE-7DEC-11D0-A765-00A0C91E6BF6\"," ++
  "\"owner\":\"\\u0041l\\nice \\ud83d\\ude00\",\"resource\":\"scan\\/1\",\"status\":\"completed\",\"label\":" ++
  "\x7b\"name\":\"undefined\",\"confidence\":5e-1,\"index\":7,\"kind\":\"category\"\x7d,\"more\":[] \x7d"

def unusual : Prediction where
  id := ⟨0xF81D4FAE7DEC11D0A76500A0C91E6BF6⟩
  owner := "Al\nice 😀"
  resource := "scan/1"
  status := .completed
  label := some (.category 7 "undefined" ⟨0x3FE0000000000000⟩)
  error := none
  createdAt := ⟨17166, 86399, 1500000000, by decide, by decide⟩
  updatedAt := ⟨17166, 84600, 1, by decide, by decide⟩
  completedAt := some ⟨17167, 0, 0, Nat.zero_lt_succ _, Nat.zero_lt_succ _⟩

theorem accepted_unusual : ofBytes? (bytesOf unusualText) = some unusual := by
  decide +kernel

theorem readsBack_unusual : unusual.ReadsBack := by
  rintro _ ⟨⟩ _ _ _ ⟨⟩
  decide +kernel

theorem canonical_json_unusual :
    (ofBytes? (bytesOf unusualText) = some unusual ∧ unusual.ReadsBack ∧
      ∃ again, Keeps unusual again) ∧
    (Label.ofBytes? (bytesOf "[\"undefined\"]") = some .undefined ∧
      ∃ again, KeepsLabel .undefined again) ∧
    "error" ∈ optionalNames ∧
      AddsNull "error" (Tree.ofMembers (unusual.members.take 5 ++ unusual.members.drop 6))
        unusual.toTree ∧
      ofBytes? unusual.toTree.write =
        ofBytes? (Tree.ofMembers (unusual.members.take 5 ++ unusual.members.drop 6)).write := by
  have hlabel : Label.ofBytes? (bytesOf "[\"undefined\"]") = some .undefined := by decide +kernel
  have hplain := unusual.plain_members
  have hsub : ∀ m ∈ unusual.members.take 5 ++ unusual.members.drop 6, m ∈ unusual.members := by
    intro m hm
    rcases List.mem_append.1 hm with hm | hm
    · exact List.mem_of_mem_take hm
    · exact List.mem_of_mem_drop hm
  have hnull : AddsNull "error" (Tree.ofMembers (unusual.members.take 5 ++ unusual.members.drop 6))
      unusual.toTree := by
    refine addsNull_ofMembers (by decide +kernel) (fun m hm => hplain m (hsub m hm)) ?_
    have hnames : ∀ name ∈ (unusual.members.take 5 ++ unusual.members.drop 6).map Prod.fst,
        name ≠ "error" := by
      show ∀ name ∈ ["id", "owner", "resource", "status", "label", "created_at", "updated_at",
        "completed_at"], name ≠ "error"
      decide
    intro m hm
    exact hnames m.1 (List.mem_map_of_mem hm)
  have hwell : (Tree.ofMembers (unusual.members.take 5 ++ unusual.members.drop 6)).WellFormed :=
    Tree.wellFormed_ofMembers fun m hm =>
      ⟨hplain m (hsub m hm), unusual.wellFormed_members m (hsub m hm)⟩
  have hname : "error" ∈ optionalNames := by decide
  exact ⟨⟨accepted_unusual, readsBack_unusual, canonical_json.1 _ unusual accepted_unusual⟩,
    ⟨hlabel, canonical_json.2.1 _ _ hlabel⟩, hname, hnull,
    canonical_json.2.2 "error" hname _ _ _ _ (Tree.ofBytes?_write hwell)
      (Tree.ofBytes?_write unusual.wellFormed_toTree) hnull⟩

example : unusual.createdAt.rfc3339 = "2016-12-31T23:59:60.500Z" ∧
    unusual.updatedAt.rfc3339 = "2016-12-31T23:30:00.000000001Z" := by
  decide +kernel

end Prediction

end Predictor
