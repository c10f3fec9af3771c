import DeployBoard.Proofs.Index.Encoding
import DeployBoard.Proofs.Json.Soundness
import Mathlib.Data.List.Forall2
import Mathlib.Logic.Relation

/-!
# `Proofs.Index.Spellings` — which bodies are read as the same index

A record can be written in many ways. Its members may stand in any order and among others, a field that has its default
may be left out, no tags may be `null`, and the fields may stand in an array without their names. `Rewrites` is one such
change. None of them makes a difference to the record that is read (`Rewrites.record?_eq`), and together they lead from
each way to write a record to every other (`alike_iff_record?_eq`).

`Refused` names what no record is read from. Together with the spellings of a value (`parse?_eq_some_iff`) that tells
which bodies are read as the same index, and which are not read at all: `alike_bodies_decode_alike`.
-/

namespace DeployBoard
namespace Json

open Relation (EqvGen)

/-! ## Fields -/

/-- **The fields of a record.** -/
inductive Field where
  | tags | pinnedTag | pinnedTagValue | autoDeploy
  deriving DecidableEq

namespace Field

/-- The name of a field in an object. -/
def name : Field → String
  | .tags => "tags"
  | .pinnedTag => "pinned_tag"
  | .pinnedTagValue => "pinned_tag_value"
  | .autoDeploy => "auto_deploy"

/-- The place of a field in an array. -/
def place : Field → Nat
  | .tags => 0
  | .pinnedTag => 1
  | .pinnedTagValue => 2
  | .autoDeploy => 3

/-- **A value that a field has** where none is written. -/
inductive IsDefault : Field → Json → Prop where
  | noTags : IsDefault .tags (.array [])
  | null : IsDefault .tags .null
  | pinnedTag : IsDefault .pinnedTag (.string (some ""))
  | pinnedTagValue : IsDefault .pinnedTagValue (.string (some ""))
  | autoDeploy : IsDefault .autoDeploy (.bool false)

/-- It is all the same to a field which of two is written, if any. -/
def Agrees (f : Field) (o o' : Option Json) : Prop :=
  match f with
  | .tags => orDefault tags? [] o = orDefault tags? [] o'
  | .pinnedTag | .pinnedTagValue => orDefault text? "" o = orDefault text? "" o'
  | .autoDeploy => orDefault bool? false o = orDefault bool? false o'

variable {f g : Field} {v w : Json}

theorem name_injective (h : f.name = g.name) : f = g := by
  revert h
  cases f <;> cases g <;> simp [name]

theorem place_lt (f : Field) : f.place < 4 := by
  cases f <;> decide

theorem place_injective (h : f.place = g.place) : f = g := by
  revert h
  cases f <;> cases g <;> simp [place]

theorem Agrees.refl (f : Field) (o : Option Json) : f.Agrees o o := by
  cases f <;> rfl

theorem Agrees.symm {o o' : Option Json} (h : f.Agrees o o') : f.Agrees o' o := by
  cases f with
  | tags => exact Eq.symm h
  | pinnedTag => exact Eq.symm h
  | pinnedTagValue => exact Eq.symm h
  | autoDeploy => exact Eq.symm h

theorem IsDefault.agrees (hv : f.IsDefault v) : f.Agrees none (some v) := by
  cases hv <;> rfl

theorem IsDefault.agrees_default (hv : f.IsDefault v) (hw : f.IsDefault w) : f.Agrees (some v) (some w) := by
  cases hv <;> cases hw <;> rfl

theorem exists_place {i : Nat} (h : i < 4) : ∃ f : Field, i = f.place := by
  match i, h with
  | 0, _ => exact ⟨.tags, rfl⟩
  | 1, _ => exact ⟨.pinnedTag, rfl⟩
  | 2, _ => exact ⟨.pinnedTagValue, rfl⟩
  | 3, _ => exact ⟨.autoDeploy, rfl⟩

/-- Every field has a default. -/
theorem exists_default (f : Field) : ∃ v, f.IsDefault v := by
  cases f with
  | tags => exact ⟨_, .null⟩
  | pinnedTag => exact ⟨_, .pinnedTag⟩
  | pinnedTagValue => exact ⟨_, .pinnedTagValue⟩
  | autoDeploy => exact ⟨_, .autoDeploy⟩

end Field

/-! ## Members of an object -/

section Members

variable {ms ns : List (Option String × Json)} {m : Option String × Json} {name : String} {v : Json}

theorem member?_perm (h : ms.Perm ns) (name : String) : member? ms name = member? ns name := by
  have hfilter := h.filter (fun m : Option String × Json => m.1 = some name)
  unfold member?
  cases hms : ms.filter (fun m : Option String × Json => m.1 = some name) with
  | nil =>
      rw [hms] at hfilter
      rw [hfilter.symm.eq_nil]
  | cons m rest =>
      rw [hms] at hfilter
      cases rest with
      | nil => rw [List.perm_singleton.mp hfilter.symm]
      | cons m' rest =>
          have hlength := hfilter.length_eq
          cases hns : ns.filter (fun m : Option String × Json => m.1 = some name) with
          | nil => rw [hns] at hlength; cases hlength
          | cons n rest' =>
              cases rest' with
              | nil => rw [hns] at hlength; cases hlength
              | cons n' rest' => rfl

theorem member?_cons_of_ne (h : m.1 ≠ some name) : member? (m :: ms) name = member? ms name := by
  unfold member?
  rw [List.filter_cons_of_neg (by simpa using h)]

theorem member?_of_absent (h : ∀ m ∈ ms, m.1 ≠ some name) : member? ms name = some none := by
  unfold member?
  rw [List.filter_eq_nil_iff.mpr (by simpa using h)]

theorem member?_cons_of_absent (h : ∀ m ∈ ms, m.1 ≠ some name) :
    member? ((some name, v) :: ms) name = some (some v) := by
  unfold member?
  rw [List.filter_cons_of_pos (by simp), List.filter_eq_nil_iff.mpr (by simpa using h)]

/-- A name that stands once more than in other members: once, or too often. -/
theorem member?_cons_self (ms : List (Option String × Json)) (name : String) (v : Json) :
    member? ((some name, v) :: ms) name = if ∀ m ∈ ms, m.1 ≠ some name then some (some v) else none := by
  split
  · rename_i h
    exact member?_cons_of_absent h
  · rename_i h
    unfold member?
    rw [List.filter_cons_of_pos (by simp)]
    cases hms : ms.filter (fun m : Option String × Json => m.1 = some name) with
    | nil => exact absurd (by simpa using List.filter_eq_nil_iff.mp hms) h
    | cons m rest => rfl

theorem member?_eq_none_of_two_le
    (h : 2 ≤ ms.countP fun m => m.1 = some name) : member? ms name = none := by
  rw [List.countP_eq_length_filter] at h
  unfold member?
  cases hms : ms.filter (fun m : Option String × Json => m.1 = some name) with
  | nil => rw [hms] at h; simp at h
  | cons m rest =>
      cases rest with
      | nil => rw [hms] at h; simp at h
      | cons m' rest => rfl

/-- What is read of a name is what a member of that name has. -/
theorem member?_of_mem (h : (some name, v) ∈ ms) : member? ms name = some (some v) ∨ member? ms name = none := by
  have hfilter : (some name, v) ∈ ms.filter (fun m : Option String × Json => m.1 = some name) :=
    List.mem_filter.mpr ⟨h, by simp⟩
  unfold member?
  cases hms : ms.filter (fun m : Option String × Json => m.1 = some name) with
  | nil => rw [hms] at hfilter; cases hfilter
  | cons m rest =>
      cases rest with
      | nil =>
          rw [hms] at hfilter
          have hm : m = (some name, v) := (List.mem_singleton.mp hfilter).symm
          rw [hm]
          exact .inl rfl
      | cons m' rest => exact .inr rfl

end Members

/-! ## Records -/

/-- The record of what is written of each field. -/
def recordOf (o : Field → Option Json) : Option Record :=
  recordOfFields (o .tags) (o .pinnedTag) (o .pinnedTagValue) (o .autoDeploy)

/-- What an object writes of each field, if it is not too much. -/
def written (ms : List (Option String × Json)) (f : Field) : Option Json := (member? ms f.name).getD none

variable {ms ns : List (Option String × Json)} {v w : Json} {record : Record}

theorem recordOf_congr {o o' : Field → Option Json} (h : ∀ f : Field, f.Agrees (o f) (o' f)) :
    recordOf o = recordOf o' := by
  have htags : orDefault tags? [] (o .tags) = orDefault tags? [] (o' .tags) := h .tags
  have hpinned : orDefault text? "" (o .pinnedTag) = orDefault text? "" (o' .pinnedTag) := h .pinnedTag
  have hvalue : orDefault text? "" (o .pinnedTagValue) = orDefault text? "" (o' .pinnedTagValue) := h .pinnedTagValue
  have hauto : orDefault bool? false (o .autoDeploy) = orDefault bool? false (o' .autoDeploy) := h .autoDeploy
  unfold recordOf recordOfFields
  rw [htags, hpinned, hvalue, hauto]

/-- **What is read from an object**: all its members are named, none of the fields stands twice, and what is written of
    them makes a record. -/
theorem record?_object_eq_some_iff :
    record? (.object ms) = some record ↔
      (∀ m ∈ ms, m.1.isSome = true) ∧ (∀ f : Field, member? ms f.name ≠ none) ∧
        recordOf (written ms) = some record := by
  have hread : record? (.object ms) =
      if ms.all (·.1.isSome) = true then
        (member? ms Field.tags.name).bind fun t => (member? ms Field.pinnedTag.name).bind fun p =>
          (member? ms Field.pinnedTagValue.name).bind fun c => (member? ms Field.autoDeploy.name).bind fun a =>
            recordOfFields t p c a
      else none := rfl
  rw [hread]
  constructor
  · intro h
    split at h
    · rename_i hnames
      obtain ⟨t, ht, h⟩ := Option.bind_eq_some_iff.mp h
      obtain ⟨p, hp, h⟩ := Option.bind_eq_some_iff.mp h
      obtain ⟨c, hc, h⟩ := Option.bind_eq_some_iff.mp h
      obtain ⟨a, ha, h⟩ := Option.bind_eq_some_iff.mp h
      refine ⟨List.all_eq_true.mp hnames, fun f => ?_, ?_⟩
      · cases f with
        | tags => simp [ht]
        | pinnedTag => simp [hp]
        | pinnedTagValue => simp [hc]
        | autoDeploy => simp [ha]
      · unfold recordOf written
        rw [ht, hp, hc, ha]
        exact h
    · cases h
  · intro ⟨hnames, hfields, h⟩
    obtain ⟨t, ht⟩ := Option.ne_none_iff_exists'.mp (hfields .tags)
    obtain ⟨p, hp⟩ := Option.ne_none_iff_exists'.mp (hfields .pinnedTag)
    obtain ⟨c, hc⟩ := Option.ne_none_iff_exists'.mp (hfields .pinnedTagValue)
    obtain ⟨a, ha⟩ := Option.ne_none_iff_exists'.mp (hfields .autoDeploy)
    unfold recordOf written at h
    rw [ht, hp, hc, ha] at h
    rw [if_pos (List.all_eq_true.mpr hnames), ht, hp, hc, ha]
    exact h

/-- What is read from an array: it is not too long, and its items make a record. -/
theorem record?_array_eq_some_iff {items : List Json} :
    record? (.array items) = some record ↔ items.length ≤ 4 ∧ (recordOf fun f => items[f.place]?) = some record := by
  show (if items.length ≤ 4 then recordOf fun f => items[f.place]? else none) = some record ↔ _
  simp

/-- **Objects are read as the same record** if each field of the one agrees with the field of the other. -/
theorem record?_object_congr (hnames : (∀ m ∈ ms, m.1.isSome = true) ↔ ∀ m ∈ ns, m.1.isSome = true)
    (h : ∀ f : Field, Option.Rel f.Agrees (member? ms f.name) (member? ns f.name)) :
    record? (.object ms) = record? (.object ns) := by
  have hfield : ∀ f : Field, (member? ms f.name ≠ none ↔ member? ns f.name ≠ none) ∧
      f.Agrees (written ms f) (written ns f) := by
    intro f
    have hf := h f
    unfold written
    generalize member? ms f.name = o at hf
    generalize member? ns f.name = o' at hf
    cases hf with
    | some hagrees => exact ⟨by simp, hagrees⟩
    | none => exact ⟨Iff.rfl, .refl f none⟩
  have hwritten : recordOf (written ms) = recordOf (written ns) := recordOf_congr fun f => (hfield f).2
  refine Option.ext fun record => ?_
  rw [record?_object_eq_some_iff, record?_object_eq_some_iff, hnames, hwritten]
  simp only [fun f => (hfield f).1]

/-- **Arrays are read as the same record** if each item of the one agrees with the item of the other. -/
theorem record?_array_congr {xs ys : List Json} (hlength : xs.length ≤ 4 ↔ ys.length ≤ 4)
    (h : ∀ f : Field, f.Agrees xs[f.place]? ys[f.place]?) : record? (.array xs) = record? (.array ys) := by
  have hrecord : recordOf (fun f => xs[f.place]?) = recordOf fun f => ys[f.place]? := recordOf_congr h
  refine Option.ext fun record => ?_
  rw [record?_array_eq_some_iff, record?_array_eq_some_iff, hlength, hrecord]

/-! ## One change -/

/-- **One change to a value** that makes no difference to the record. -/
inductive Rewrites : Json → Json → Prop where
  /-- The members of an object stand in another order. -/
  | permute {ms ns : List (Option String × Json)} (h : ms.Perm ns) : Rewrites (.object ms) (.object ns)
  /-- There is one more member, which is no field, with any value. -/
  | insert {ms : List (Option String × Json)} {name : String} (v : Json) (h : ∀ f : Field, name ≠ f.name) :
      Rewrites (.object ms) (.object ((some name, v) :: ms))
  /-- A field that is missing is written, with its default. -/
  | write {ms : List (Option String × Json)} {f : Field} {v : Json} (hv : f.IsDefault v)
      (h : ∀ m ∈ ms, m.1 ≠ some f.name) : Rewrites (.object ms) (.object ((some f.name, v) :: ms))
  /-- A field has one of its defaults in place of another. -/
  | exchange {ms : List (Option String × Json)} {f : Field} {v w : Json} (hv : f.IsDefault v) (hw : f.IsDefault w) :
      Rewrites (.object ((some f.name, v) :: ms)) (.object ((some f.name, w) :: ms))
  /-- The fields of an object stand in an array. -/
  | array (tags pinnedTag pinnedTagValue autoDeploy : Json) :
      Rewrites
        (.object [(some "tags", tags), (some "pinned_tag", pinnedTag), (some "pinned_tag_value", pinnedTagValue),
          (some "auto_deploy", autoDeploy)])
        (.array [tags, pinnedTag, pinnedTagValue, autoDeploy])
  /-- In an array, a field has one of its defaults in place of another. -/
  | exchangeItem {before after : List Json} {f : Field} {v w : Json} (hv : f.IsDefault v) (hw : f.IsDefault w)
      (hplace : before.length = f.place) : Rewrites (.array (before ++ v :: after)) (.array (before ++ w :: after))
  /-- An array stops before a field that has its default. -/
  | shorten {items : List Json} {f : Field} {v : Json} (hv : f.IsDefault v) (hplace : items.length = f.place) :
      Rewrites (.array (items ++ [v])) (.array items)

theorem getElem?_append_cons_of_ne {before after : List Json} {i : Nat} (h : i ≠ before.length) (v w : Json) :
    (before ++ v :: after)[i]? = (before ++ w :: after)[i]? := by
  rcases Nat.lt_or_gt_of_ne h with hlt | hgt
  · rw [List.getElem?_append_left hlt, List.getElem?_append_left hlt]
  · obtain ⟨k, hk⟩ := Nat.exists_eq_add_of_lt hgt
    subst hk
    simp [List.getElem?_append_right, Nat.add_assoc]

theorem getElem?_concat_of_ne {items : List Json} {i : Nat} (h : i ≠ items.length) (v : Json) :
    (items ++ [v])[i]? = items[i]? := by
  rcases Nat.lt_or_gt_of_ne h with hlt | hgt
  · rw [List.getElem?_append_left hlt]
  · rw [List.getElem?_eq_none (by simp only [List.length_append, List.length_singleton]; omega),
      List.getElem?_eq_none (by omega)]

/-- **No change makes a difference to the record.** -/
theorem Rewrites.record?_eq (h : Rewrites v w) : record? v = record? w := by
  have hrefl : ∀ (f : Field) (o : Option (Option Json)), Option.Rel f.Agrees o o := by
    intro f o
    cases o with
    | none => exact .none
    | some o => exact .some (.refl f o)
  cases h with
  | @permute ms ns h =>
      refine record?_object_congr ⟨fun hms m hm => hms m (h.mem_iff.mpr hm), fun hns m hm => hns m (h.mem_iff.mp hm)⟩
        fun f => ?_
      rw [member?_perm h]
      exact hrefl f _
  | @insert ms name v h =>
      refine record?_object_congr (by simp) fun f => ?_
      rw [member?_cons_of_ne (fun heq => h f (Option.some.inj heq))]
      exact hrefl f _
  | @write ms f v hv h =>
      refine record?_object_congr (by simp) fun g => ?_
      by_cases hfg : f = g
      · subst hfg
        rw [member?_of_absent h, member?_cons_of_absent h]
        exact .some hv.agrees
      · rw [member?_cons_of_ne fun heq => hfg (Field.name_injective (Option.some.inj heq))]
        exact hrefl g _
  | @exchange ms f v w hv hw =>
      refine record?_object_congr (by simp) fun g => ?_
      by_cases hfg : f = g
      · subst hfg
        rw [member?_cons_self, member?_cons_self]
        split
        · exact .some (hv.agrees_default hw)
        · exact .none
      · have hne : some f.name ≠ some g.name := fun heq => hfg (Field.name_injective (Option.some.inj heq))
        rw [member?_cons_of_ne hne, member?_cons_of_ne hne]
        exact hrefl g _
  | array => rfl
  | @exchangeItem before after f v w hv hw hplace =>
      refine record?_array_congr (by simp) fun g => ?_
      by_cases hfg : f = g
      · subst hfg
        rw [← hplace]
        simpa using hv.agrees_default hw
      · have hne : g.place ≠ before.length := fun heq => hfg (Field.place_injective (hplace.symm.trans heq.symm))
        rw [getElem?_append_cons_of_ne hne v w]
        exact .refl g _
  | @shorten items f v hv hplace =>
      have hlt := f.place_lt
      refine record?_array_congr (by simp only [List.length_append, List.length_singleton]; omega) fun g => ?_
      by_cases hfg : f = g
      · subst hfg
        rw [← hplace]
        simpa using hv.agrees.symm
      · have hne : g.place ≠ items.length := fun heq => hfg (Field.place_injective (hplace.symm.trans heq.symm))
        rw [getElem?_concat_of_ne hne v]
        exact .refl g _

/-- **Values that some changes lead from one to the other** are read as the same record. -/
theorem record?_eq_of_alike (h : EqvGen Rewrites v w) : record? v = record? w := by
  induction h with
  | rel _ _ h => exact h.record?_eq
  | refl => rfl
  | symm _ _ _ ih => exact ih.symm
  | trans _ _ _ _ _ ih ih' => exact ih.trans ih'

/-! ## All values of a record -/

/-- The members besides a field. -/
def besides (f : Field) (ms : List (Option String × Json)) : List (Option String × Json) :=
  ms.filter fun m => m.1 ≠ some f.name

theorem mem_besides {f : Field} {m : Option String × Json} : m ∈ besides f ms ↔ m ∈ ms ∧ m.1 ≠ some f.name := by
  unfold besides
  rw [List.mem_filter]
  simp

theorem besides_cons {f g : Field} (h : g ≠ f) (v : Json) (ms : List (Option String × Json)) :
    besides f ((some g.name, v) :: ms) = (some g.name, v) :: besides f ms := by
  have hne : some g.name ≠ some f.name := fun heq => h (Field.name_injective (Option.some.inj heq))
  exact List.filter_cons_of_pos (by simpa using hne)

/-- A field can be brought to the front, with a default if it was missing. -/
theorem exists_alike_front (hread : record? (.object ms) = some record) (f : Field) :
    ∃ v, EqvGen Rewrites (.object ms) (.object ((some f.name, v) :: besides f ms)) := by
  obtain ⟨-, hfields, -⟩ := record?_object_eq_some_iff.mp hread
  have hperm := List.filter_append_perm (fun m : Option String × Json => m.1 = some f.name) ms
  simp only [← decide_not] at hperm
  have hmember := hfields f
  unfold member? at hmember
  cases hown : ms.filter (fun m : Option String × Json => m.1 = some f.name) with
  | nil =>
      have habsent : ∀ m ∈ ms, m.1 ≠ some f.name := by simpa using List.filter_eq_nil_iff.mp hown
      have hbesides : besides f ms = ms := List.filter_eq_self.mpr (by simpa using habsent)
      obtain ⟨v, hv⟩ := f.exists_default
      rw [hbesides]
      exact ⟨v, .rel _ _ (.write hv habsent)⟩
  | cons m rest =>
      cases rest with
      | nil =>
          have hm : m ∈ ms.filter (fun m : Option String × Json => m.1 = some f.name) := hown ▸ List.mem_cons_self
          have hname : m.1 = some f.name := by simpa using (List.mem_filter.mp hm).2
          obtain ⟨_, v⟩ := m
          cases hname
          rw [hown] at hperm
          exact ⟨v, .rel _ _ (.permute hperm.symm)⟩
      | cons m' rest =>
          rw [hown] at hmember
          exact absurd rfl hmember

/-- Members that are no fields can be left out. -/
theorem alike_drop {others : List (Option String × Json)}
    (h : ∀ m ∈ others, ∃ name, m.1 = some name ∧ ∀ f : Field, name ≠ f.name) :
    EqvGen Rewrites (.object (ms ++ others)) (.object ms) := by
  induction others with
  | nil =>
      rw [List.append_nil]
      exact .refl _
  | cons m others ih =>
      obtain ⟨name, hname, hother⟩ := h m List.mem_cons_self
      obtain ⟨_, v⟩ := m
      cases hname
      have hfront : EqvGen Rewrites (.object (ms ++ (some name, v) :: others))
          (.object ((some name, v) :: (ms ++ others))) := .rel _ _ (.permute List.perm_middle)
      have hdropped : EqvGen Rewrites (.object ((some name, v) :: (ms ++ others))) (.object (ms ++ others)) :=
        .symm _ _ (.rel _ _ (.insert v hother))
      exact .trans _ _ _ hfront (.trans _ _ _ hdropped (ih fun m hm => h m (List.mem_cons_of_mem _ hm)))

/-- The value of a record with all its fields in an object, in their order. -/
def ofFields (tags pinnedTag pinnedTagValue autoDeploy : Json) : Json :=
  .object [(some "tags", tags), (some "pinned_tag", pinnedTag), (some "pinned_tag_value", pinnedTagValue),
    (some "auto_deploy", autoDeploy)]

/-- **An object can be brought into the form of its four fields.** -/
theorem exists_alike_ofFields (hread : record? (.object ms) = some record) :
    ∃ t p c a, EqvGen Rewrites (.object ms) (ofFields t p c a) := by
  -- The fields are brought to the front one after another, and the first of them last.
  obtain ⟨a, ha⟩ := exists_alike_front hread .autoDeploy
  have hread₁ := (record?_eq_of_alike ha).symm.trans hread
  obtain ⟨c, hc⟩ := exists_alike_front hread₁ .pinnedTagValue
  have hread₂ := (record?_eq_of_alike hc).symm.trans hread₁
  obtain ⟨p, hp⟩ := exists_alike_front hread₂ .pinnedTag
  have hread₃ := (record?_eq_of_alike hp).symm.trans hread₂
  obtain ⟨t, ht⟩ := exists_alike_front hread₃ .tags
  rw [besides_cons (by decide)] at hc
  rw [besides_cons (by decide), besides_cons (by decide), besides_cons (by decide)] at hp
  rw [besides_cons (by decide), besides_cons (by decide), besides_cons (by decide), besides_cons (by decide),
    besides_cons (by decide), besides_cons (by decide)] at ht
  refine ⟨t, p, c, a, .trans _ _ _ ha (.trans _ _ _ hc (.trans _ _ _ hp (.trans _ _ _ ht ?_)))⟩
  refine @alike_drop [(some "tags", t), (some "pinned_tag", p), (some "pinned_tag_value", c), (some "auto_deploy", a)]
    (besides .tags (besides .pinnedTag (besides .pinnedTagValue (besides .autoDeploy ms)))) fun m hm => ?_
  simp only [mem_besides] at hm
  obtain ⟨⟨⟨⟨hmem, hauto⟩, hvalue⟩, hpinned⟩, htags⟩ := hm
  obtain ⟨hnames, -, -⟩ := record?_object_eq_some_iff.mp hread
  obtain ⟨name, hname⟩ := Option.isSome_iff_exists.mp (hnames m hmem)
  refine ⟨name, hname, fun f heq => ?_⟩
  subst heq
  cases f with
  | tags => exact htags hname
  | pinnedTag => exact hpinned hname
  | pinnedTagValue => exact hvalue hname
  | autoDeploy => exact hauto hname

theorem eq_of_text? {text : String} (h : text? v = some text) : v = .string (some text) := by
  cases v <;> simp_all [text?]

theorem eq_of_bool? {b : Bool} (h : bool? v = some b) : v = .bool b := by
  cases v <;> simp_all [bool?]

theorem eq_of_texts {items : List Json} {texts : List String} (h : items.mapM text? = some texts) :
    items = texts.map fun t => .string (some t) := by
  induction items generalizing texts with
  | nil =>
      cases h
      rfl
  | cons v vs ih =>
      rw [List.mapM_cons] at h
      obtain ⟨t, ht, h⟩ := Option.bind_eq_some_iff.mp h
      obtain ⟨ts, hts, h⟩ := Option.bind_eq_some_iff.mp h
      cases h
      rw [List.map_cons, ← ih hts, eq_of_text? ht]

/-- Tags are an array of strings, or `null` if there are none. -/
theorem tags?_cases {tags : List String} (h : tags? v = some tags) :
    v = .array (tags.map fun t => .string (some t)) ∨ v = .null ∧ tags = [] := by
  cases v with
  | null =>
      cases h
      exact .inr ⟨rfl, rfl⟩
  | array items => exact .inl (congrArg Json.array (eq_of_texts h))
  | _ => cases h

/-- The value with all four fields is the record's own, but for `null` in place of no tags. -/
theorem alike_of_ofFields {t p c a : Json} (hread : record? (ofFields t p c a) = some record) :
    EqvGen Rewrites (ofFields t p c a) (ofRecord record) := by
  obtain ⟨tags, ht, h⟩ := Option.bind_eq_some_iff.mp hread
  obtain ⟨pinnedTag, hp, h⟩ := Option.bind_eq_some_iff.mp h
  obtain ⟨pinnedTagValue, hc, h⟩ := Option.bind_eq_some_iff.mp h
  obtain ⟨autoDeploy, ha, h⟩ := Option.bind_eq_some_iff.mp h
  cases h
  obtain rfl : p = _ := eq_of_text? hp
  obtain rfl : c = _ := eq_of_text? hc
  obtain rfl : a = _ := eq_of_bool? ha
  rcases (tags?_cases ht : t = _ ∨ t = _ ∧ _) with rfl | ⟨rfl, rfl⟩
  · exact .refl _
  · exact .rel _ _ (.exchange (f := .tags) .null .noTags)

/-- An array that is too short can be filled up with defaults. -/
theorem exists_alike_full {items : List Json} {missing : Nat} (h : items.length + missing = 4) :
    ∃ full, full.length = 4 ∧ EqvGen Rewrites (.array items) (.array full) := by
  induction missing generalizing items with
  | zero => exact ⟨items, h, .refl _⟩
  | succ missing ih =>
      obtain ⟨f, hf⟩ : ∃ f : Field, items.length = f.place := Field.exists_place (by omega)
      obtain ⟨v, hv⟩ := f.exists_default
      have hlength : (items ++ [v]).length + missing = 4 := by
        simp only [List.length_append, List.length_singleton]
        omega
      obtain ⟨full, hfull, halike⟩ := ih hlength
      exact ⟨full, hfull, .trans _ _ _ (.symm _ _ (.rel _ _ (.shorten hv hf))) halike⟩

/-- **Every value of a record leads to the record's own**, by the changes that make no difference. -/
theorem alike_ofRecord (hread : record? v = some record) : EqvGen Rewrites v (ofRecord record) := by
  cases v with
  | object ms =>
      obtain ⟨t, p, c, a, halike⟩ := exists_alike_ofFields hread
      exact .trans _ _ _ halike (alike_of_ofFields ((record?_eq_of_alike halike).symm.trans hread))
  | array items =>
      obtain ⟨hshort, -⟩ := record?_array_eq_some_iff.mp hread
      obtain ⟨full, hfull, halike⟩ := exists_alike_full (Nat.add_sub_cancel' hshort)
      obtain ⟨t, p, c, a, rfl⟩ := List.length_eq_four.mp hfull
      have hfields : EqvGen Rewrites (.array items) (ofFields t p c a) :=
        .trans _ _ _ halike (.symm _ _ (.rel _ _ (.array t p c a)))
      exact .trans _ _ _ hfields (alike_of_ofFields ((record?_eq_of_alike hfields).symm.trans hread))
  | _ => cases hread

/-- **The changes lead from a value of a record to just those that are read as the same record.** -/
theorem alike_iff_record?_eq (hread : record? v = some record) :
    EqvGen Rewrites v w ↔ record? w = some record :=
  ⟨fun h => (record?_eq_of_alike h).symm.trans hread,
    fun h => .trans _ _ _ (alike_ofRecord hread) (.symm _ _ (alike_ofRecord h))⟩

/-! ## Values that are refused -/

/-- **A value that is no record**, for what stands in it of a field, or for its length. -/
inductive Refused : Json → Prop where
  /-- A field stands in an object more than once. -/
  | repeated {ms : List (Option String × Json)} {f : Field} (h : 2 ≤ ms.countP fun m => m.1 = some f.name) :
      Refused (.object ms)
  /-- A field other than the tags is `null`. -/
  | null {ms : List (Option String × Json)} {f : Field} (hf : f ≠ .tags) (h : (some f.name, .null) ∈ ms) :
      Refused (.object ms)
  /-- A field other than the tags is `null` in an array. -/
  | nullItem {items : List Json} {f : Field} (hf : f ≠ .tags) (h : items[f.place]? = some .null) :
      Refused (.array items)
  /-- An array has more items than there are fields. -/
  | overlong {items : List Json} (h : 4 < items.length) : Refused (.array items)

theorem recordOf_of_null {o : Field → Option Json} {f : Field} (hf : f ≠ .tags) (h : o f = some .null) :
    recordOf o = none := by
  unfold recordOf recordOfFields
  cases f with
  | tags => exact absurd rfl hf
  | pinnedTag => simp [h, orDefault, text?]
  | pinnedTagValue => simp [h, orDefault, text?]
  | autoDeploy => simp [h, orDefault, bool?]

/-- **No record is read from a value that is refused.** -/
theorem Refused.record?_eq_none (h : Refused v) : record? v = none := by
  cases hread : record? v with
  | none => rfl
  | some record =>
      exfalso
      cases h with
      | @repeated ms f h =>
          obtain ⟨-, hfields, -⟩ := record?_object_eq_some_iff.mp hread
          exact hfields f (member?_eq_none_of_two_le h)
      | @null ms f hf h =>
          obtain ⟨-, hfields, hrecord⟩ := record?_object_eq_some_iff.mp hread
          have hwritten : written ms f = some .null := by
            unfold written
            rw [(member?_of_mem h).resolve_right (hfields f)]
            rfl
          rw [recordOf_of_null hf hwritten] at hrecord
          cases hrecord
      | @nullItem items f hf h =>
          obtain ⟨-, hrecord⟩ := record?_array_eq_some_iff.mp hread
          rw [recordOf_of_null hf h] at hrecord
          cases hrecord
      | @overlong items h =>
          obtain ⟨hshort, -⟩ := record?_array_eq_some_iff.mp hread
          omega

/-! ## Documents -/

/-- **Two documents are alike**: they are the same, or they name the same repositories in the same order, and changes
    that make no difference lead from the records of the one to those of the other. -/
inductive Alike : Json → Json → Prop where
  | refl (v : Json) : Alike v v
  | records {ms ns : List (Option String × Json)}
      (h : List.Forall₂ (fun m n => m.1 = n.1 ∧ EqvGen Rewrites m.2 n.2) ms ns) : Alike (.object ms) (.object ns)

theorem Alike.index?_eq (h : Alike v w) : index? v = index? w := by
  cases h with
  | refl => rfl
  | @records ms ns h =>
      have hentries : ms.mapM entry? = ns.mapM entry? := by
        induction h with
        | nil => rfl
        | @cons m n ms ns hmn _ ih =>
            have hentry : entry? m = entry? n := by
              unfold entry?
              rw [hmn.1, record?_eq_of_alike hmn.2]
            rw [List.mapM_cons, List.mapM_cons, hentry, ih]
      show (ms.mapM entry?).map Catalog.ofList = (ns.mapM entry?).map Catalog.ofList
      rw [hentries]

/-- **One value that is refused is enough** for a document to be no index. -/
theorem index?_of_refused (h : ∃ m ∈ ms, Refused m.2) : index? (.object ms) = none := by
  obtain ⟨m, hm, hrefused⟩ := h
  have hentries : ms.mapM entry? = none := by
    have hentry : entry? m = none := by
      unfold entry?
      rw [hrefused.record?_eq_none]
      simp
    induction ms with
    | nil => cases hm
    | cons n ms ih =>
        rw [List.mapM_cons]
        rcases List.mem_cons.mp hm with rfl | hm
        · rw [hentry]
          rfl
        · rw [ih hm]
          cases entry? n <;> rfl
  show (ms.mapM entry?).map Catalog.ofList = none
  rw [hentries]
  rfl

/-- Only an object is read as an index. -/
theorem exists_members_of_index? {index : Index} (h : index? v = some index) : ∃ ms, v = .object ms := by
  cases v with
  | object ms => exact ⟨ms, rfl⟩
  | _ => cases h

/-- A body is read by any value that it spells. -/
theorem decode?_of_spells {body : String} (h : SpellsPadded v body.toList) : Index.decode? body = index? v := by
  unfold Index.decode?
  rw [parse?_eq_some_iff.mpr h]
  rfl

/-- **Bodies that are spelled alike are read alike.** A body is read as an index when it spells an object that is one,
    with whatever blanks and escapes. So another spelling of the object is read as the same index, and so is any spelling
    of an object with the same names whose records have been changed in ways that make no difference: with members in
    another order, with other members beside the fields, with defaults left out or written, with `null` for no tags, or
    with the fields in an array. A body in which one record has a field twice, `null` for a field other than the tags, or
    too long an array is not read at all. -/
theorem alike_bodies_decode_alike :
    (∀ body index, Index.decode? body = some index ↔
      ∃ ms, SpellsPadded (.object ms) body.toList ∧ index? (.object ms) = some index) ∧
    (∀ body body' v w, SpellsPadded v body.toList → SpellsPadded w body'.toList → Alike v w →
      Index.decode? body = Index.decode? body') ∧
    ∀ body ms, SpellsPadded (.object ms) body.toList → (∃ m ∈ ms, Refused m.2) → Index.decode? body = none := by
  refine ⟨fun body index => ⟨fun h => ?_, fun ⟨ms, hms, hindex⟩ => ?_⟩, fun body body' v w hv hw halike => ?_,
    fun body ms hms hrefused => ?_⟩
  · obtain ⟨v, hparse, hindex⟩ := Option.bind_eq_some_iff.mp h
    obtain ⟨ms, rfl⟩ := exists_members_of_index? hindex
    exact ⟨ms, parse?_eq_some_iff.mp hparse, hindex⟩
  · rw [decode?_of_spells hms, hindex]
  · rw [decode?_of_spells hv, decode?_of_spells hw, halike.index?_eq]
  · rw [decode?_of_spells hms, index?_of_refused hrefused]

/-- A document whose record has no tags and a member that is no field. -/
def sampleObject : Json :=
  .object [(some "api", .object [(some "note", .array [.array []]), (some "tags", .array [])])]

/-- A document with the same record as an array that stops after `null` for the tags. -/
def sampleArray : Json := .object [(some "api", .array [.null])]

theorem writable_sampleObject : Writable sampleObject := by
  refine .object fun m hm => ?_
  rw [List.mem_singleton.mp hm]
  refine .object fun m hm => ?_
  simp only [List.mem_cons, List.not_mem_nil, or_false] at hm
  rcases hm with rfl | rfl
  · refine .array fun v hv => ?_
    rw [List.mem_singleton.mp hv]
    exact .array fun v hv => absurd hv List.not_mem_nil
  · exact .array fun v hv => absurd hv List.not_mem_nil

theorem writable_sampleArray : Writable sampleArray := by
  refine .object fun m hm => ?_
  rw [List.mem_singleton.mp hm]
  refine .array fun v hv => ?_
  rw [List.mem_singleton.mp hv]
  exact .null

theorem alike_samples : Alike sampleObject sampleArray := by
  have hread : record? (.object [(some "note", .array [.array []]), (some "tags", .array [])]) = some {} := rfl
  exact .records (.cons ⟨rfl, (alike_iff_record?_eq hread).mpr rfl⟩ .nil)

/-- A record is read from an object as from an array, with a blank before it. -/
theorem object_and_array_decode_alike :
    Index.decode? (String.ofList sampleObject.render) = Index.decode? (String.ofList (' ' :: sampleArray.render)) ∧
      Index.decode? (String.ofList sampleObject.render) = some (Catalog.ofList [("api", {})]) := by
  have hobject : SpellsPadded sampleObject (String.ofList sampleObject.render).toList := by
    rw [String.toList_ofList]
    exact (spells_render writable_sampleObject).padded
  have harray : SpellsPadded sampleArray (String.ofList (' ' :: sampleArray.render)).toList := by
    rw [String.toList_ofList]
    have hblank : Blanks [' '] := by simp [Blanks, isSpace]
    have hpadded := SpellsPadded.mk hblank (spells_render writable_sampleArray) blanks_nil
    rwa [List.append_nil] at hpadded
  refine ⟨alike_bodies_decode_alike.2.1 _ _ _ _ hobject harray alike_samples, ?_⟩
  rw [decode?_of_spells hobject]
  rfl

end Json
end DeployBoard
