import Mathlib.Tactic
import YangTypes.Proofs.Derivation.Members

/-!
The numbers of bits and enums of a type without a base.

* `Numbered`: the members that declarations make, one after the other. A member
  has the number that it declares, or zero if it is the first one, or one more
  than the highest number before it. Every list of declarations has exactly one
  such list of members (`exists_numbered`, `Numbered.unique`), whether or not a
  type can have them.
* `Numberable`: when a type can have them. Said of the declarations and of
  `Numbered` only.
* `numberMember_eq_ok_iff`, `foldLocated_numberMember`: one declaration, and a
  run over all of them. The invariant of the run is that all numbers so far are
  in the range of the kind, so that the highest one can be the last one but not
  lie beyond it.
* `nextValue?_eq_running`: what comes next can be kept up to date with each
  number instead of being computed from all of them. Enums keep the highest
  number, and bits the number after it.
-/

namespace YangTypes

/-! ### Ranges of numbers -/

namespace MemberKind

/-- The least number of a member. -/
def bottom : MemberKind → ℤ
  | bit => 0
  | enum => -2147483648

/-- The numbers that a member can have. -/
def InRange (kind : MemberKind) (v : ℤ) : Prop := kind.bottom ≤ v ∧ v ≤ kind.top

lemma bottom_nonpos (kind : MemberKind) : kind.bottom ≤ 0 := by
  cases kind <;> decide

lemma top_pos (kind : MemberKind) : 0 < kind.top := by
  cases kind <;> decide

end MemberKind

/-- A declared number is in the range of the kind. -/
def MemberDecl.Fits (kind : MemberKind) (decl : MemberDecl) : Prop :=
  ∀ v, decl.value = some v → kind.InRange v

/-! ### The number that comes next -/

/-- A member with the highest number. -/
def IsHighest (members : List Member) (m : Member) : Prop :=
  m ∈ members ∧ ∀ other ∈ members, other.value ≤ m.value

lemma max?_values_eq_some {members : List Member} {v : ℤ} :
    (members.map Member.value).max? = some v ↔ ∃ m, IsHighest members m ∧ m.value = v := by
  rw [List.max?_eq_some_iff]
  constructor
  · rintro ⟨hmem, hmax⟩
    obtain ⟨m, hm, rfl⟩ := List.mem_map.mp hmem
    exact ⟨m, ⟨hm, fun other h => hmax _ (List.mem_map_of_mem h)⟩, rfl⟩
  · rintro ⟨m, ⟨hm, hmax⟩, rfl⟩
    exact ⟨List.mem_map_of_mem hm, List.forall_mem_map.mpr hmax⟩

lemma exists_isHighest {members : List Member} (h : members ≠ []) :
    ∃ m, IsHighest members m := by
  cases hmax : (members.map Member.value).max? with
  | none => exact absurd (List.map_eq_nil_iff.mp (List.max?_eq_none_iff.mp hmax)) h
  | some v =>
      obtain ⟨m, hm, -⟩ := max?_values_eq_some.mp hmax
      exact ⟨m, hm⟩

lemma nextValue?_nil (kind : MemberKind) : nextValue? kind [] = some 0 := rfl

lemma nextValue?_of_isHighest (kind : MemberKind) {members : List Member} {m : Member}
    (h : IsHighest members m) :
    nextValue? kind members = if m.value < kind.top then some (m.value + 1) else none := by
  rw [nextValue?, max?_values_eq_some.mpr ⟨m, h, rfl⟩]

/-- What comes next is not used yet. -/
lemma ne_of_nextValue? {kind : MemberKind} {members : List Member} {v : ℤ}
    (h : nextValue? kind members = some v) : ∀ m ∈ members, m.value ≠ v := by
  intro m hm
  obtain ⟨highest, hhighest⟩ := exists_isHighest (List.ne_nil_of_mem hm)
  have hle := hhighest.2 m hm
  rw [nextValue?_of_isHighest kind hhighest] at h
  split at h
  next =>
    have hv := Option.some.inj h
    omega
  next => simp at h

/-! ### Keeping what comes next -/

/-- The number after another one, if the kind has it. -/
def MemberKind.after? (kind : MemberKind) (v : ℤ) : Option ℤ :=
  if v < kind.top then some (v + 1) else none

/-- The highest number, with one more number. -/
def keepHighest (highest : Option ℤ) (v : ℤ) : Option ℤ :=
  match highest with
  | none => some v
  | some h => some (max h v)

/-- The number that comes next, with one more number. Once the last number is
used there is none, whatever follows. -/
def keepNext (kind : MemberKind) (next : Option ℤ) (v : ℤ) : Option ℤ :=
  match next, kind.after? v with
  | some n, some candidate => some (max n candidate)
  | _, _ => none

/-- What comes next after some numbers, kept up to date with each of them. -/
def MemberKind.running (kind : MemberKind) (values : List ℤ) : Option ℤ :=
  match kind with
  | enum =>
    match values.foldl keepHighest none with
    | none => some 0
    | some highest => enum.after? highest
  | bit => values.foldl (keepNext bit) (some 0)

lemma foldl_keepHighest (values : List ℤ) : values.foldl keepHighest none = values.max? := by
  have hsome : ∀ (values : List ℤ) (v : ℤ),
      values.foldl keepHighest (some v) = some (values.foldl max v) := by
    intro values
    induction values with
    | nil => exact fun v => rfl
    | cons w values ih => exact fun v => ih (max v w)
  cases values with
  | nil => rfl
  | cons v values => exact (hsome values v).trans List.max?_cons'.symm

/-- The kept number is the one after the highest; at the start the highest number
may be taken to be any number below zero. -/
lemma foldl_keepNext (kind : MemberKind) (values : List ℤ) (highest : ℤ) :
    values.foldl (keepNext kind) (kind.after? highest) =
      kind.after? (values.foldl max highest) := by
  induction values generalizing highest with
  | nil => rfl
  | cons v values ih =>
      have hstep : keepNext kind (kind.after? highest) v = kind.after? (max highest v) := by
        by_cases hh : highest < kind.top <;> by_cases hv : v < kind.top <;>
          simp [keepNext, MemberKind.after?, hh, hv, max_add_add_right]
      rw [List.foldl_cons, hstep, ih, List.foldl_cons]

/-- **Both ways to keep what comes next give the number after the highest one.** -/
lemma nextValue?_eq_running {kind : MemberKind} {members : List Member}
    (h : ∀ m ∈ members, kind.InRange m.value) :
    nextValue? kind members = kind.running (members.map Member.value) := by
  cases kind with
  | enum =>
      rw [nextValue?, MemberKind.running, foldl_keepHighest]
      cases (members.map Member.value).max? <;> rfl
  | bit =>
      cases members with
      | nil => rfl
      | cons m members =>
          have hnonneg : (0 : ℤ) ≤ m.value := (h m List.mem_cons_self).1
          have hmax : max (-1) m.value = m.value := max_eq_right (by omega)
          have hrunning := foldl_keepNext .bit ((m :: members).map Member.value) (-1)
          rw [List.map_cons, List.foldl_cons (f := max), hmax] at hrunning
          rw [nextValue?, List.map_cons, List.max?_cons']
          exact hrunning.symm

/-! ### The members that declarations make -/

/-- The member that a declaration makes after others. -/
inductive Makes (before : List Member) : MemberDecl → Member → Prop where
  | explicit (name : String) (v : ℤ) (doc : MemberDoc) :
      Makes before ⟨name, some v, doc⟩ ⟨name, v, doc⟩
  | first (name : String) (doc : MemberDoc) (h : before = []) :
      Makes before ⟨name, none, doc⟩ ⟨name, 0, doc⟩
  | next (name : String) (doc : MemberDoc) {highest : Member} (h : IsHighest before highest) :
      Makes before ⟨name, none, doc⟩ ⟨name, highest.value + 1, doc⟩

/-- The members that declarations make, each after those before it. -/
inductive Numbered : List MemberDecl → List Member → Prop where
  | nil : Numbered [] []
  | concat {decls : List MemberDecl} {members : List Member} {decl : MemberDecl} {m : Member}
      (before : Numbered decls members) (made : Makes members decl m) :
      Numbered (decls ++ [decl]) (members ++ [m])

lemma Makes.name_eq {before : List Member} {decl : MemberDecl} {m : Member}
    (h : Makes before decl m) : m.name = decl.name := by
  cases h <;> rfl

lemma Makes.eq {before : List Member} {decl : MemberDecl} {m : Member}
    (h : Makes before decl m) : m = ⟨decl.name, m.value, decl.doc⟩ := by
  cases h <;> rfl

lemma Makes.unique {before : List Member} {decl : MemberDecl} {m m' : Member}
    (h : Makes before decl m) (h' : Makes before decl m') : m = m' := by
  cases h with
  | explicit name v doc =>
      cases h'
      rfl
  | first name doc hnil =>
      cases h' with
      | first => rfl
      | next _ _ hhighest => exact absurd hhighest.1 (by simp [hnil])
  | next name doc hhighest =>
      cases h' with
      | first _ _ hnil => exact absurd hhighest.1 (by simp [hnil])
      | next _ _ hhighest' =>
          rw [le_antisymm (hhighest'.2 _ hhighest.1) (hhighest.2 _ hhighest'.1)]

lemma exists_makes (before : List Member) (decl : MemberDecl) : ∃ m, Makes before decl m := by
  obtain ⟨name, value, doc⟩ := decl
  cases value with
  | some v => exact ⟨_, .explicit name v doc⟩
  | none =>
      by_cases hnil : before = []
      · exact ⟨_, .first name doc hnil⟩
      · obtain ⟨highest, hhighest⟩ := exists_isHighest hnil
        exact ⟨_, .next name doc hhighest⟩

lemma numbered_nil_iff {members : List Member} : Numbered [] members ↔ members = [] := by
  constructor
  · intro h
    generalize hdecls : ([] : List MemberDecl) = decls at h
    cases h with
    | nil => rfl
    | concat => simp at hdecls
  · rintro rfl
    exact .nil

lemma numbered_concat_iff {decls : List MemberDecl} {decl : MemberDecl} {all : List Member} :
    Numbered (decls ++ [decl]) all ↔
      ∃ members m, Numbered decls members ∧ Makes members decl m ∧ all = members ++ [m] := by
  constructor
  · intro h
    generalize hdecls : decls ++ [decl] = list at h
    cases h with
    | nil => simp at hdecls
    | concat before made =>
        obtain ⟨rfl, rfl⟩ := List.append_singleton_inj.mp hdecls
        exact ⟨_, _, before, made, rfl⟩
  · rintro ⟨members, m, before, made, rfl⟩
    exact .concat before made

lemma exists_numbered (decls : List MemberDecl) : ∃ members, Numbered decls members := by
  induction decls using List.reverseRecOn with
  | nil => exact ⟨[], .nil⟩
  | append_singleton decls decl ih =>
      obtain ⟨members, hmembers⟩ := ih
      obtain ⟨m, hm⟩ := exists_makes members decl
      exact ⟨members ++ [m], .concat hmembers hm⟩

lemma Numbered.unique {decls : List MemberDecl} {members members' : List Member}
    (h : Numbered decls members) (h' : Numbered decls members') : members = members' := by
  induction h generalizing members' with
  | nil => exact (numbered_nil_iff.mp h').symm
  | concat before made ih =>
      obtain ⟨others, m', hothers, hm', rfl⟩ := numbered_concat_iff.mp h'
      obtain rfl := ih hothers
      rw [made.unique hm']

/-- Members have the declared names, in their order. -/
lemma Numbered.names_eq {decls : List MemberDecl} {members : List Member}
    (h : Numbered decls members) : members.map Member.name = decls.map MemberDecl.name := by
  induction h with
  | nil => rfl
  | concat before made ih => rw [List.map_append, List.map_append, ih, List.map_singleton,
      List.map_singleton, made.name_eq]

/-! ### Declarations that can be numbered -/

/-- A declaration can follow members: an enum has a name without blanks around
it, the name is new, a declared number is new, and if none is declared there is a
number left. -/
structure Placeable (kind : MemberKind) (members : List Member) (decl : MemberDecl) : Prop where
  shaped : kind = .enum → decl.name ≠ "" ∧ Text.trim decl.name = decl.name
  name : ∀ m ∈ members, m.name ≠ decl.name
  fresh : ∀ v, decl.value = some v → ∀ m ∈ members, m.value ≠ v
  room : decl.value = none → ∀ m ∈ members, m.value ≠ kind.top

/-- Declarations can make the members of a type: enums have names without blanks
around them, all names differ, no declared number is that of an earlier member,
and no member without a declared number follows one with the last number. -/
structure Numberable (kind : MemberKind) (decls : List MemberDecl) : Prop where
  shaped : kind = .enum → ∀ decl ∈ decls, decl.name ≠ "" ∧ Text.trim decl.name = decl.name
  names : (decls.map MemberDecl.name).Nodup
  fresh : ∀ earlier decl members v, earlier ++ [decl] <+: decls → Numbered earlier members →
    decl.value = some v → ∀ m ∈ members, m.value ≠ v
  room : ∀ earlier decl members, earlier ++ [decl] <+: decls → Numbered earlier members →
    decl.value = none → ∀ m ∈ members, m.value ≠ kind.top

section

variable {kind : MemberKind} {decls : List MemberDecl} {members : List Member} {decl : MemberDecl}
  {m : Member}

lemma numberable_nil : Numberable kind [] where
  shaped := by simp
  names := List.nodup_nil
  fresh := by simp
  room := by simp

lemma numberable_concat_iff (h : Numbered decls members) :
    Numberable kind (decls ++ [decl]) ↔ Numberable kind decls ∧ Placeable kind members decl := by
  have hname : decl.name ∉ decls.map MemberDecl.name ↔ ∀ m ∈ members, m.name ≠ decl.name := by
    rw [← h.names_eq]
    simp
  constructor
  · intro hall
    have hnames := hall.names
    rw [List.map_append, List.map_singleton, ← List.concat_eq_append, List.nodup_concat,
      hname] at hnames
    refine ⟨⟨fun hkind d hd => hall.shaped hkind d (List.mem_append_left _ hd), hnames.2, ?_, ?_⟩,
      ⟨fun hkind => hall.shaped hkind decl (by simp), hnames.1, ?_, ?_⟩⟩
    · intro earlier d ms v hstart
      exact hall.fresh earlier d ms v (hstart.trans (List.prefix_append _ _))
    · intro earlier d ms hstart
      exact hall.room earlier d ms (hstart.trans (List.prefix_append _ _))
    · exact fun v => hall.fresh decls decl members v (List.prefix_refl _) h
    · exact hall.room decls decl members (List.prefix_refl _) h
  · rintro ⟨hdecls, hdecl⟩
    refine ⟨fun hkind d hd => ?_, ?_, ?_, ?_⟩
    · rcases List.mem_append.mp hd with hd | hd
      · exact hdecls.shaped hkind d hd
      · exact List.mem_singleton.mp hd ▸ hdecl.shaped hkind
    · rw [List.map_append, List.map_singleton, ← List.concat_eq_append, List.nodup_concat, hname]
      exact ⟨hdecl.name, hdecls.names⟩
    · intro earlier d ms v hstart hms hv
      rcases List.prefix_concat_iff.mp hstart with heq | hstart
      · obtain ⟨rfl, rfl⟩ := List.append_singleton_inj.mp heq
        exact hms.unique h ▸ hdecl.fresh v hv
      · exact hdecls.fresh earlier d ms v hstart hms hv
    · intro earlier d ms hstart hms hv
      rcases List.prefix_concat_iff.mp hstart with heq | hstart
      · obtain ⟨rfl, rfl⟩ := List.append_singleton_inj.mp heq
        exact hms.unique h ▸ hdecl.room hv
      · exact hdecls.room earlier d ms hstart hms hv

/-! ### One declaration -/

lemma admitsName_iff {name : String} :
    kind.admitsName name = true ↔ (kind = .enum → name ≠ "" ∧ Text.trim name = name) := by
  cases kind <;> simp [MemberKind.admitsName]

/-- There is a number left if the last one is not used. -/
lemma IsHighest.lt_top_iff (h : IsHighest members m)
    (hrange : ∀ m ∈ members, kind.InRange m.value) :
    m.value < kind.top ↔ ∀ m ∈ members, m.value ≠ kind.top := by
  constructor
  · intro hlt other hother
    exact ((h.2 other hother).trans_lt hlt).ne
  · intro hne
    exact lt_of_le_of_ne (hrange m h.1).2 (hne m h.1)

/-- The number of a declaration, if there is one, is that of the member that it
makes. -/
lemma number_eq_some_iff (hrange : ∀ m ∈ members, kind.InRange m.value) {v : ℤ} :
    (decl.value <|> nextValue? kind members) = some v ↔
      (decl.value = none → ∀ m ∈ members, m.value ≠ kind.top) ∧
        Makes members decl ⟨decl.name, v, decl.doc⟩ := by
  obtain ⟨name, value, doc⟩ := decl
  cases value with
  | some w =>
      simp only [Option.orElse_eq_orElse, Option.orElse_some, Option.some.injEq, reduceCtorEq,
        false_implies, true_and]
      constructor
      · rintro rfl
        exact .explicit name w doc
      · intro hmakes
        cases hmakes
        rfl
  | none =>
      simp only [Option.orElse_eq_orElse, Option.orElse_none, true_implies]
      by_cases hnil : members = []
      · subst hnil
        rw [nextValue?_nil]
        constructor
        · intro hv
          obtain rfl := Option.some.inj hv
          exact ⟨by simp, .first name doc rfl⟩
        · rintro ⟨-, hmakes⟩
          exact congrArg (fun m => some m.value) ((Makes.first name doc rfl).unique hmakes)
      · obtain ⟨highest, hhighest⟩ := exists_isHighest hnil
        rw [nextValue?_of_isHighest kind hhighest, ← hhighest.lt_top_iff hrange]
        constructor
        · intro hv
          split at hv
          next hlt =>
            obtain rfl := Option.some.inj hv
            exact ⟨hlt, .next name doc hhighest⟩
          next => simp at hv
        · rintro ⟨hlt, hmakes⟩
          rw [if_pos hlt]
          exact congrArg (fun m => some m.value) ((Makes.next name doc hhighest).unique hmakes)

/-- A declaration is taken if it can follow the members before it, and makes one
more member then. A number that comes next is new without being compared. -/
lemma numberMember_eq_ok_iff (hrange : ∀ m ∈ members, kind.InRange m.value) :
    numberMember kind members decl = .ok m ↔
      Placeable kind members decl ∧ Makes members decl m := by
  rw [numberMember_eq_ok_iff_number]
  constructor
  · rintro ⟨hshaped, hname, v, hv, hfresh, rfl⟩
    obtain ⟨hroom, hmakes⟩ := (number_eq_some_iff hrange).mp hv
    refine ⟨⟨admitsName_iff.mp hshaped, hname, fun w hw => ?_, hroom⟩, hmakes⟩
    obtain rfl : w = v := by simpa [hw] using hv
    exact hfresh
  · rintro ⟨⟨hshaped, hname, hfresh, hroom⟩, hmakes⟩
    have hm : m = ⟨decl.name, m.value, decl.doc⟩ := hmakes.eq
    rw [hm] at hmakes
    have hv := (number_eq_some_iff hrange).mpr ⟨hroom, hmakes⟩
    refine ⟨admitsName_iff.mpr hshaped, hname, m.value, hv, ?_, hm⟩
    cases hdeclared : decl.value with
    | some w =>
        have hw : w = m.value := by simpa [hdeclared] using hv
        exact hw ▸ hfresh w hdeclared
    | none => exact ne_of_nextValue? (by simpa [hdeclared] using hv)

/-- Why a declaration is not taken. A number that comes next is not used, so a used
one is declared. -/
lemma numberMember_error_cases {fault : TypeFault}
    (h : numberMember kind members decl = .error fault) :
    kind = .enum ∧ fault = .invalidBound (.memberName decl.name) ∨
      (∃ m ∈ members, m.name = decl.name) ∧ fault = .duplicateName decl.name ∨
      decl.value = none ∧ fault = .invalidBound (.noneLeft kind decl.name) ∨
      ∃ v, decl.value = some v ∧ ∃ m ∈ members, m.value = v ∧
        fault = .duplicateValue kind v m.name := by
  rw [numberMember] at h
  split at h
  next hshape =>
    refine .inl ⟨?_, (Except.error.inj h).symm⟩
    cases kind with
    | bit => simp [MemberKind.admitsName] at hshape
    | enum => rfl
  next =>
    split at h
    next hused => exact .inr (.inl ⟨by simpa using hused, (Except.error.inj h).symm⟩)
    next =>
      split at h
      next hnone =>
        refine .inr (.inr (.inl ⟨?_, (Except.error.inj h).symm⟩))
        cases hdeclared : decl.value with
        | none => rfl
        | some v => simp [hdeclared] at hnone
      next v hv =>
        split at h
        next other hfind =>
          have hother := List.mem_of_find?_eq_some hfind
          have hused : other.value = v := by simpa using List.find?_some hfind
          refine .inr (.inr (.inr ⟨v, ?_, other, hother, hused, (Except.error.inj h).symm⟩))
          cases hdeclared : decl.value with
          | some w => simpa [hdeclared] using hv
          | none =>
              have hnext : nextValue? kind members = some v := by simpa [hdeclared] using hv
              exact absurd hused (ne_of_nextValue? hnext other hother)
        next => simp at h

/-! ### All declarations -/

lemma Makes.inRange (h : Makes members decl m) (hplaceable : Placeable kind members decl)
    (hfits : decl.Fits kind) (hrange : ∀ m ∈ members, kind.InRange m.value) :
    kind.InRange m.value := by
  cases h with
  | explicit name v doc => exact hfits v rfl
  | first name doc hnil => exact ⟨kind.bottom_nonpos, kind.top_pos.le⟩
  | next name doc hhighest =>
      have hlt := (hhighest.lt_top_iff hrange).mpr (hplaceable.room rfl)
      have hbottom := (hrange _ hhighest.1).1
      exact ⟨by dsimp only; omega, by dsimp only; omega⟩

/-- The invariant of a run: all numbers are in the range of the kind. -/
lemma Numbered.inRange (h : Numbered decls members) (hnumberable : Numberable kind decls)
    (hfits : ∀ decl ∈ decls, decl.Fits kind) : ∀ m ∈ members, kind.InRange m.value := by
  induction h with
  | nil => simp
  | concat before made ih =>
      obtain ⟨hdecls, hdecl⟩ := (numberable_concat_iff before).mp hnumberable
      have hmembers := ih hdecls fun decl hdecl => hfits decl (List.mem_append_left _ hdecl)
      have hm := made.inRange hdecl (hfits _ (by simp)) hmembers
      intro m hmem
      rcases List.mem_append.mp hmem with hmem | hmem
      · exact hmembers m hmem
      · exact List.mem_singleton.mp hmem ▸ hm

end

/-- **A run over declarations succeeds exactly if they are numberable, with the
members that they make.** -/
theorem foldLocated_numberMember {kind : MemberKind} {decls : List (Located MemberDecl)}
    (hfits : ∀ decl ∈ decls, decl.value.Fits kind) {members : List Member} :
    foldLocated
        (fun assigned decl => (numberMember kind assigned decl).map fun m => assigned ++ [m]) []
        decls = .ok members ↔
      Numberable kind (decls.map Located.value) ∧ Numbered (decls.map Located.value) members := by
  induction decls using List.reverseRecOn generalizing members with
  | nil =>
      rw [foldLocated, List.map_nil, numbered_nil_iff, and_iff_right numberable_nil,
        Except.ok.injEq, eq_comm]
  | append_singleton decls decl ih =>
      have hfits' : ∀ decl ∈ decls, decl.value.Fits kind := fun d hd =>
        hfits d (List.mem_append_left _ hd)
      have hinRange : ∀ {members}, Numberable kind (decls.map Located.value) →
          Numbered (decls.map Located.value) members → ∀ m ∈ members, kind.InRange m.value :=
        fun hnumberable hnumbered =>
          hnumbered.inRange hnumberable (List.forall_mem_map.mpr hfits')
      simp only [foldLocated_concat_eq_ok, map_eq_ok, ih hfits', List.map_append,
        List.map_singleton, numbered_concat_iff]
      constructor
      · rintro ⟨before, ⟨hnumberable, hnumbered⟩, m, hm, rfl⟩
        obtain ⟨hdecl, hmakes⟩ := (numberMember_eq_ok_iff (hinRange hnumberable hnumbered)).mp hm
        exact ⟨(numberable_concat_iff hnumbered).mpr ⟨hnumberable, hdecl⟩, before, m, hnumbered,
          hmakes, rfl⟩
      · rintro ⟨hall, before, m, hnumbered, hmakes, rfl⟩
        obtain ⟨hnumberable, hdecl⟩ := (numberable_concat_iff hnumbered).mp hall
        exact ⟨before, ⟨hnumberable, hnumbered⟩, m,
          (numberMember_eq_ok_iff (hinRange hnumberable hnumbered)).mpr ⟨hdecl, hmakes⟩, rfl⟩

/-- **A type without a base gets its members exactly if its declarations are
numberable: then they are the members that the declarations make, in the range of
the kind, and what comes next was at each point the same in both ways to keep it.
A number is only reported as used if it is declared, by the member that has it.** -/
theorem rootMembers_iff_numberable {kind : MemberKind} (location : Location)
    {decls : List (Located MemberDecl)} (hne : decls ≠ [])
    (hfits : ∀ decl ∈ decls, decl.value.Fits kind) :
    ((∃ members, rootMembers kind location decls = .ok members) ↔
        Numberable kind (decls.map Located.value)) ∧
      (∀ members, rootMembers kind location decls = .ok members →
        Numbered (decls.map Located.value) members ∧ (∀ m ∈ members, kind.InRange m.value) ∧
          ∀ before, before <+: members →
            nextValue? kind before = kind.running (before.map Member.value)) ∧
      ∀ place kind' v other,
        rootMembers kind location decls = .error ⟨place, .duplicateValue kind' v other⟩ →
          kind' = kind ∧ ∃ earlier decl later members, decls = earlier ++ decl :: later ∧
            place = decl.location ∧ decl.value.value = some v ∧
            Numbered (earlier.map Located.value) members ∧
            ∃ m ∈ members, m.name = other ∧ m.value = v := by
  have hroot : rootMembers kind location decls = foldLocated
      (fun assigned decl => (numberMember kind assigned decl).map fun m => assigned ++ [m]) []
      decls := if_neg (by simpa using hne)
  simp only [hroot, foldLocated_numberMember hfits]
  refine ⟨⟨fun ⟨_, h, _⟩ => h, fun h => ?_⟩, ?_, ?_⟩
  · obtain ⟨members, hmembers⟩ := exists_numbered (decls.map Located.value)
    exact ⟨members, h, hmembers⟩
  · rintro members ⟨hnumberable, hnumbered⟩
    have hrange := hnumbered.inRange hnumberable (List.forall_mem_map.mpr hfits)
    exact ⟨hnumbered, hrange, fun before hstart =>
      nextValue?_eq_running fun m hm => hrange m (hstart.subset hm)⟩
  · intro place kind' v other herror
    obtain ⟨earlier, decl, later, members, rfl, hbefore, hfault, rfl⟩ := foldLocated_eq_error herror
    obtain ⟨rfl, hdeclared, howner⟩ : kind' = kind ∧ decl.value.value = some v ∧
        ∃ m ∈ members, m.name = other ∧ m.value = v := by
      rcases numberMember_error_cases (map_eq_error.mp hfault) with
        ⟨-, h⟩ | ⟨-, h⟩ | ⟨-, h⟩ | ⟨w, hw, m, hm, hvalue, h⟩
      · simp at h
      · simp at h
      · simp at h
      · obtain ⟨rfl, rfl, rfl⟩ := TypeFault.duplicateValue.inj h
        exact ⟨rfl, hw, m, hm, rfl, hvalue⟩
    have hnumbered := (foldLocated_numberMember fun d hd =>
      hfits d (List.mem_append_left _ hd)).mp hbefore
    exact ⟨rfl, earlier, decl, later, members, rfl, rfl, hdeclared, hnumbered.2, howner⟩

/-- Numbers below zero, a jump, the last number, and a declared one after it. -/
theorem rootMembers_up_to_last :
    let decls : List (Located MemberDecl) :=
      [⟨⟨"a", some (-5), .none⟩, "1"⟩, ⟨⟨"b", none, .none⟩, "2"⟩,
        ⟨⟨"c", some 2147483646, .none⟩, "3"⟩, ⟨⟨"d", none, .none⟩, "4"⟩,
        ⟨⟨"e", some (-6), .none⟩, "5"⟩]
    decls ≠ [] ∧ (∀ decl ∈ decls, decl.value.Fits .enum) ∧
      Numberable .enum (decls.map Located.value) ∧
      Numbered (decls.map Located.value)
        [⟨"a", -5, .none⟩, ⟨"b", -4, .none⟩, ⟨"c", 2147483646, .none⟩, ⟨"d", 2147483647, .none⟩,
          ⟨"e", -6, .none⟩] := by
  intro decls
  have hne : decls ≠ [] := by simp [decls]
  have hfits : ∀ decl ∈ decls, decl.value.Fits .enum := by
    simp [decls, MemberDecl.Fits, MemberKind.InRange, MemberKind.bottom, MemberKind.top]
  have hmembers := rootMembers_iff_numberable "0" hne hfits
  have hok : rootMembers .enum "0" decls = .ok
      [⟨"a", -5, .none⟩, ⟨"b", -4, .none⟩, ⟨"c", 2147483646, .none⟩, ⟨"d", 2147483647, .none⟩,
        ⟨"e", -6, .none⟩] := by decide
  exact ⟨hne, hfits, hmembers.1.mp ⟨_, hok⟩, (hmembers.2.1 _ hok).1⟩
end YangTypes
