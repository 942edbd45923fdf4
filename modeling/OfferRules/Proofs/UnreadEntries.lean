import OfferRules.Proofs.Alike

/-!
# Entries that are not read

The mappings of a document are read by definitions, each of which looks for entries of some names
and at no others.  Where a field has two names, the entry of the first one is read if there is one.
So an entry of another name, an entry of a second name beside one of the first, and the order in
which the entries are written do not matter, at whatever depth: what a document gives, rules or
issues, stays as it is.

## Main definitions

* `RuleSet.Part` — the parts of a document that are mappings, each read by a definition.
* `RuleSet.Part.names`, `RuleSet.Part.read` — the names of the fields of a part, and how it is read.
* `RuleSet.Revised` — a part, and the same with other entries that are not read.

## Main results

* `Entries.get?_perm`, `Field.find?_insert` — entries in another order, and one that is set.
* `RuleSet.Part.read_of_sees` — a part is read from the entries of its names.
* `RuleSet.Revised.read_eq` — a revised part is read as before.
* `RuleSet.parse_revised` — **entries that are not read do not matter, and those that are do.**
-/

namespace OfferRules

variable {α β : Type}

/-! ### Entries -/

/-- What is found under a text among different keys does not depend on their order. -/
theorem Entries.get?_perm {es es' : Entries} (hkeys : (es.map Prod.fst).Nodup) (h : es.Perm es')
    (s : Text) : get? (.text s) es' = get? (.text s) es := by
  ext v
  rw [get?_text_eq_some hkeys, get?_text_eq_some ((h.map Prod.fst).nodup_iff.mp hkeys), h.mem_iff]

namespace Field

variable {names : List Text} {name : Text} {es es' : Entries} {u u' : Value}

/-- The entry of a field depends on the entries of its names alone. -/
theorem find?_congr (h : ∀ s ∈ names, Entries.get? (.text s) es' = Entries.get? (.text s) es) :
    find? names es' = find? names es := by
  induction names with
  | nil => rfl
  | cons first rest ih =>
    rw [List.forall_mem_cons] at h
    rw [find?_cons, find?_cons, h.1, ih h.2]

/-- An entry that is set in the place of another one is found where that one was. -/
theorem find?_insert (hu : Entries.get? (.text name) es = some u) (u' : Value) :
    find? names (es.insert (.text name) u')
      = (find? names es).map fun p => if p.1 = name then (name, u') else p := by
  induction names with
  | nil => rfl
  | cons first rest ih =>
    rw [find?_cons, find?_cons, ih]
    by_cases hfirst : name = first
    · subst hfirst
      rw [Entries.get?_insert_self, hu]
      simp
    · rw [Entries.get?_insert_of_ne hfirst]
      cases Entries.get? (.text first) es with
      | none => rfl
      | some v => simp [Ne.symm hfirst]

/-- The first name of a field has its entry read, whatever stands under the other names. -/
theorem find?_insert_second {first : Text} (hne : name ≠ first)
    (hfirst : Entries.get? (.text first) es = some u) (v : Value) :
    find? (first :: names) (es.insert (.text name) v) = find? (first :: names) es := by
  rw [find?_cons, find?_cons, Entries.get?_insert_of_ne hne, hfirst]

/-- The value of the entry that is found under a name. -/
theorem get?_of_find? {v : Value} (h : find? names es = some (name, v)) :
    Entries.get? (.text name) es = some v := by
  obtain ⟨first, -, hfirst⟩ := List.exists_of_findSome?_eq_some h
  obtain ⟨w, hw, heq⟩ := Option.map_eq_some_iff.mp hfirst
  obtain ⟨rfl, rfl⟩ := Prod.mk.inj heq
  exact hw

/-- What is made of a field stays as it is where an entry is changed for one of which the same is
made. -/
theorem map_find?_insert {f : Text × Value → β} (hu : Entries.get? (.text name) es = some u)
    (h : name ∈ names → f (name, u') = f (name, u)) :
    (find? names (es.insert (.text name) u')).map f = (find? names es).map f := by
  rw [find?_insert hu]
  cases hfind : find? names es with
  | none => rfl
  | some p =>
    obtain ⟨found, v⟩ := p
    by_cases hfound : found = name
    · subst hfound
      obtain rfl : u = v := Option.some.inj (hu.symm.trans (get?_of_find? hfind))
      simp only [Option.map_some, if_true, h (mem_names_of_find? hfind)]
    · simp only [Option.map_some, if_neg hfound]

variable {read : Value → Checked α} {default : α}

theorem optional_eq_getD : optional names default read es
    = ((find? names es).map fun p => Checked.under (.key p.1) (read p.2)).getD (.ok default) := by
  unfold optional
  cases find? names es <;> rfl

theorem required_eq_getD : required names read es
    = ((find? names es).map fun p => Checked.under (.key p.1) (read p.2)).getD
        (Checked.under (.key (names.headD "")) (.fail .missing)) := by
  unfold required
  cases find? names es <;> rfl

/-- A field is read as before where the value of an entry is changed for one that is read alike. -/
theorem optional_insert (hu : Entries.get? (.text name) es = some u)
    (h : name ∈ names → read u' = read u) :
    optional names default read (es.insert (.text name) u') = optional names default read es := by
  rw [optional_eq_getD, optional_eq_getD, map_find?_insert hu fun hmem => by rw [h hmem]]

theorem required_insert (hu : Entries.get? (.text name) es = some u)
    (h : name ∈ names → read u' = read u) :
    required names read (es.insert (.text name) u') = required names read es := by
  rw [required_eq_getD, required_eq_getD, map_find?_insert hu fun hmem => by rw [h hmem]]

end Field

/-! ### Lists -/

theorem Checked.items_congr {read : Value → Checked α} {vs vs' : List Value}
    (h : vs'.map read = vs.map read) : items read vs' = items read vs := by
  unfold items
  generalize 0 = n
  induction vs generalizing vs' n with
  | nil => rw [List.map_eq_nil_iff.mp h]
  | cons v rest ih =>
    obtain ⟨v', rest', rfl, hv, hrest⟩ := List.map_eq_cons_iff.mp h
    rw [itemsFrom, itemsFrom, hv, ih hrest]

/-- A list is read as before where one of its items is changed for one that is read alike. -/
theorem readList_item {read : Value → Checked α} {u u' v v' : Value} {before after : List Value}
    (hu : u.items? = some (before ++ v :: after)) (hu' : u'.items? = some (before ++ v' :: after))
    (h : read v' = read v) : readList read u' = readList read u := by
  rw [readList_of_items? hu, readList_of_items? hu']
  refine Checked.items_congr ?_
  simp only [List.map_append, List.map_cons, h]

theorem Value.isNull_of_items? {v : Value} {vs : List Value} (h : v.items? = some vs) :
    v.isNull = false := by
  cases v with
  | atom a => exact nomatch h
  | list vs => rfl
  | map es => rfl
  | set as => rfl
  | pair a b => rfl

theorem readNullable_congr {read : Value → Checked α} {v v' : Value} (hnull : v'.isNull = v.isNull)
    (h : read v' = read v) : readNullable read v' = readNullable read v := by
  rw [readNullable, readNullable, hnull, h]

/-! ### The parts of a document -/

/-- A rule is read as before where its conditions or its window are changed for others that are read
alike. -/
theorem RuleDefinition.fields_insert {es : Entries} {name : Text} {u u' : Value}
    (hget : Entries.get? (.text name) es = some u)
    (hname : name ∈ ("conditions" : Text) :: windowNames)
    (hconditions : name ∈ (["conditions"] : List Text) →
      readNullable (readList ConditionDefinition.read) u'
        = readNullable (readList ConditionDefinition.read) u)
    (hwindow : name ∈ windowNames → readNullable TimeWindowDefinition.read u'
      = readNullable TimeWindowDefinition.read u) :
    fields (es.insert (.text name) u') = fields es := by
  have hother : ∀ {names : List Text}, (∀ s ∈ ("conditions" : Text) :: windowNames, s ∉ names) →
      name ∉ names := fun h => h name hname
  unfold fields
  rw [Field.required_insert hget (absurd · (hother (by decide))),
    Field.optional_insert hget (absurd · (hother (by decide))),
    Field.optional_insert hget (absurd · (hother (by decide))),
    Field.optional_insert hget hconditions, Field.optional_insert hget hwindow,
    Field.optional_insert hget (absurd · (hother (by decide))),
    Field.optional_insert hget (absurd · (hother (by decide)))]

namespace RuleSet

/-- A part of a document that is a mapping read by a definition. -/
inductive Part where
  /-- The document as a whole. -/
  | document
  /-- A rule. -/
  | rule
  /-- A condition of a rule. -/
  | condition
  /-- The window of a rule. -/
  | window
deriving DecidableEq, Repr

namespace Part

/-- The names of the fields of a part, in the order in which they are looked for. -/
def names : Part → List (List Text)
  | document => [["rules"]]
  | rule => [["id"], ["priority"], ["logic"], ["conditions"], RuleDefinition.windowNames,
      ["promotion"], ["weight"]]
  | condition => [["field"], ["operator", "op"], ["value"]]
  | window => [["start"], ["end"]]

/-- The field of a part that lists parts, and which ones. -/
def listed? : Part → Option (Text × Part)
  | document => some ("rules", rule)
  | rule => some ("conditions", condition)
  | condition => none
  | window => none

/-- What is read of a part. -/
def Outcome : Part → Type
  | document => Except SourceProblem (List Rule)
  | rule => Checked Rule
  | condition => Checked Condition
  | window => Checked TimeWindow

/-- Reads a part. -/
def read : (d : Part) → Value → d.Outcome
  | document => parse
  | rule => RuleDefinition.read
  | condition => ConditionDefinition.read
  | window => TimeWindowDefinition.read

theorem nodup_of_mem {d : Part} {names : List Text} (h : names ∈ d.names) : names.Nodup := by
  revert names
  cases d <;> decide

/-- No name is one of two fields. -/
theorem eq_of_mem {d : Part} {names names' : List Text} {name : Text} (h : names ∈ d.names)
    (h' : names' ∈ d.names) (hname : name ∈ names) (hname' : name ∈ names') : names = names' := by
  have hall : ∀ names ∈ d.names, ∀ names' ∈ d.names, ∀ name ∈ names, name ∈ names' →
      names = names' := by
    cases d <;> decide
  exact hall names h names' h' name hname hname'

/-- A part sees the same entries in two mappings. -/
def Sees (d : Part) (es es' : Entries) : Prop :=
  ∀ names ∈ d.names, Field.find? names es' = Field.find? names es

theorem Sees.required {d : Part} {es es' : Entries} (h : d.Sees es es') {names : List Text}
    (hnames : names ∈ d.names) (read : Value → Checked α) :
    Field.required names read es' = Field.required names read es := by
  rw [Field.required_eq_getD, Field.required_eq_getD, h names hnames]

theorem Sees.optional {d : Part} {es es' : Entries} (h : d.Sees es es') {names : List Text}
    (hnames : names ∈ d.names) (default : α) (read : Value → Checked α) :
    Field.optional names default read es' = Field.optional names default read es := by
  rw [Field.optional_eq_getD, Field.optional_eq_getD, h names hnames]

end Part

/-- A document is read from the list of its rules. -/
theorem parse_congr {es es' : Entries}
    (h : Field.required ["rules"] (readList RuleDefinition.read) es'
      = Field.required ["rules"] (readList RuleDefinition.read) es) :
    parse (.map es') = parse (.map es) := by
  rw [parse, parse, readRules, readRules, h]

/-- A part is read from the entries that it sees. -/
theorem Part.read_of_sees {d : Part} {es es' : Entries} (h : d.Sees es es') :
    d.read (.map es') = d.read (.map es) := by
  cases d with
  | document => exact parse_congr (h.required (by decide) _)
  | rule =>
    show RuleDefinition.fields es' = RuleDefinition.fields es
    unfold RuleDefinition.fields
    rw [h.required (by decide), h.optional (by decide), h.optional (by decide),
      h.optional (by decide), h.optional (by decide), h.optional (by decide),
      h.optional (by decide)]
  | condition =>
    show ConditionDefinition.fields es' = ConditionDefinition.fields es
    unfold ConditionDefinition.fields
    rw [h.required (by decide), h.required (by decide), h.optional (by decide)]
  | window =>
    show TimeWindowDefinition.fields es' = TimeWindowDefinition.fields es
    unfold TimeWindowDefinition.fields
    rw [h.optional (by decide), h.optional (by decide)]

/-! ### Revisions -/

/-- A part of a document, and the same where what is not read of it is changed. -/
inductive Revised : Part → Value → Value → Prop where
  /-- Nothing is changed. -/
  | same (d : Part) (v : Value) : Revised d v v
  /-- An entry is set that is none of a field. -/
  | unknown {d : Part} {es : Entries} {name : Text} (hname : ∀ names ∈ d.names, name ∉ names)
      (v : Value) : Revised d (.map es) (.map (es.insert (.text name) v))
  /-- An entry is set under the second name of a field, where there is one under the first. -/
  | second {d : Part} {es : Entries} {first name : Text} {u : Value}
      (hnames : [first, name] ∈ d.names) (hfirst : Entries.get? (.text first) es = some u)
      (v : Value) : Revised d (.map es) (.map (es.insert (.text name) v))
  /-- The entries, which have different keys, are written in another order. -/
  | reordered {d : Part} {es es' : Entries} (hkeys : (es.map Prod.fst).Nodup)
      (hperm : es.Perm es') : Revised d (.map es) (.map es')
  /-- One of the parts that are listed in a field is changed. -/
  | item {d d' : Part} {es : Entries} {name : Text} {u u' v v' : Value}
      {before after : List Value} (hlisted : d.listed? = some (name, d'))
      (hget : Entries.get? (.text name) es = some u)
      (hu : u.items? = some (before ++ v :: after))
      (hu' : u'.items? = some (before ++ v' :: after)) (h : Revised d' v v') :
      Revised d (.map es) (.map (es.insert (.text name) u'))
  /-- A window is changed, under either of its names. -/
  | window {es : Entries} {name : Text} {u u' : Value}
      (hname : name ∈ RuleDefinition.windowNames)
      (hget : Entries.get? (.text name) es = some u) (h : Revised .window u u') :
      Revised .rule (.map es) (.map (es.insert (.text name) u'))
  /-- One change after the other. -/
  | trans {d : Part} {u v w : Value} (h : Revised d u v) (h' : Revised d v w) : Revised d u w

namespace Revised

theorem isNull_eq {d : Part} {v v' : Value} (h : Revised d v v') : v'.isNull = v.isNull := by
  induction h with
  | trans h h' ih ih' => exact ih'.trans ih
  | _ => rfl

theorem sees_second {d : Part} {es : Entries} {first name : Text} {u : Value}
    (hnames : [first, name] ∈ d.names) (hfirst : Entries.get? (.text first) es = some u)
    (v : Value) : d.Sees es (es.insert (.text name) v) := by
  intro names hmem
  by_cases hname : name ∈ names
  · obtain rfl : [first, name] = names := Part.eq_of_mem hnames hmem (by simp) hname
    have hne : first ≠ name := by simpa using Part.nodup_of_mem hnames
    exact Field.find?_insert_second hne.symm hfirst v
  · exact Field.find?_insert_of_not_mem hname es v

/-- A revised part is read as before. -/
theorem read_eq {d : Part} {v v' : Value} (h : Revised d v v') : d.read v' = d.read v := by
  -- a part inside another one is read as before, and so is the field in which it is
  induction h with
  | same d v => rfl
  | unknown hname v =>
    exact Part.read_of_sees fun names hmem =>
      Field.find?_insert_of_not_mem (hname names hmem) _ v
  | second hnames hfirst v => exact Part.read_of_sees (sees_second hnames hfirst v)
  | reordered hkeys hperm =>
    exact Part.read_of_sees fun names _ =>
      Field.find?_congr fun s _ => Entries.get?_perm hkeys hperm s
  | @item d d' es name u u' v v' before after hlisted hget hu hu' h ih =>
    cases d with
    | document =>
      obtain ⟨rfl, rfl⟩ := Prod.mk.inj (Option.some.inj hlisted)
      exact parse_congr (Field.required_insert hget fun _ => readList_item hu hu' ih)
    | rule =>
      obtain ⟨rfl, rfl⟩ := Prod.mk.inj (Option.some.inj hlisted)
      have hnull : u'.isNull = u.isNull := by
        rw [Value.isNull_of_items? hu, Value.isNull_of_items? hu']
      refine RuleDefinition.fields_insert hget (by decide) (fun _ => ?_) (absurd · (by decide))
      exact readNullable_congr hnull (readList_item hu hu' ih)
    | condition => exact nomatch hlisted
    | window => exact nomatch hlisted
  | @window es name u u' hname hget h ih =>
    refine RuleDefinition.fields_insert hget (List.mem_cons_of_mem _ hname) ?_ ?_
    · intro hconditions
      exact nomatch Part.eq_of_mem (d := .rule) (by decide) (by decide) hconditions hname
    · intro _
      exact readNullable_congr h.isNull_eq ih
  | trans h h' ih ih' => exact ih'.trans ih

end Revised

/-! ### Names that matter -/

/-- Whether a part is read without an issue. -/
def Part.accepts : Part → Value → Bool
  | document, v => (parse v).isOk
  | rule, v => (RuleDefinition.read v).isOk
  | condition, v => (ConditionDefinition.read v).isOk
  | window, v => (TimeWindowDefinition.read v).isOk

theorem Part.accepts_congr {d : Part} {v v' : Value} (h : d.read v' = d.read v) :
    d.accepts v' = d.accepts v := by
  cases d <;> exact congrArg Except.isOk h

/-- Entries that some part lacks no more than one entry of. -/
def nearlyWhole : List Entries :=
  [[], [(.text "id", .text "r")], [(.text "field", .text "level")],
    [(.text "operator", .text "eq")]]

/-- A list, a text, and bytes that are none. -/
def someValues : List Value := [.list [], .text "x", .atom (.bytes [0xff])]

/-- An entry under a name of a field can change what is read. -/
theorem Part.exists_read_ne {d : Part} {names : List Text} {name : Text}
    (hmem : names ∈ d.names) (hname : name ∈ names) :
    ∃ es v, Entries.get? (.text name) es = none ∧
      d.read (.map (es.insert (.text name) v)) ≠ d.read (.map es) := by
  have hflat : name ∈ d.names.flatten := List.mem_flatten.mpr ⟨names, hmem, hname⟩
  by_cases hvalue : name = "value"
  · -- a literal can be anything, so it does not change whether the condition is read
    subst hvalue
    obtain rfl : d = .condition := by
      revert hflat
      cases d <;> decide
    refine ⟨[(.text "field", .text "level"), (.text "operator", .text "eq")], .int 1, rfl, ?_⟩
    intro heq
    exact nomatch congrArg (fun c : Checked Condition => c.toOption.map fun c => c.value.isNull) heq
  · have hall : ∀ s ∈ d.names.flatten, s ≠ "value" → ∃ es ∈ nearlyWhole, ∃ v ∈ someValues,
        Entries.get? (.text s) es = none ∧
          d.accepts (.map (es.insert (.text s) v)) ≠ d.accepts (.map es) := by
      cases d <;> decide +kernel
    obtain ⟨es, -, v, -, hget, hne⟩ := hall name hflat hvalue
    exact ⟨es, v, hget, fun heq => hne (Part.accepts_congr heq)⟩

/-- **Entries that are not read do not matter.**  A document gives the same rules, or the same
issues in the same order, where in its mapping, in that of a rule, of a condition or of a window an
entry is set that no field has the name of, or one under the second name of a field beside one under
the first, and where the entries of such a mapping are written in another order; so do the parts.
Only such entries do not matter: under each name of a field there is one that changes what is
read. -/
theorem parse_revised :
    (∀ doc doc', Revised .document doc doc' → parse doc' = parse doc) ∧
      (∀ d v v', Revised d v v' → d.read v' = d.read v) ∧
      ∀ d name, (∃ names ∈ Part.names d, name ∈ names) ↔
        ∃ es v, Entries.get? (.text name) es = none ∧
          d.read (.map (es.insert (.text name) v)) ≠ d.read (.map es) := by
  refine ⟨fun doc doc' h => h.read_eq, fun d v v' h => h.read_eq, ?_⟩
  intro d name
  constructor
  · rintro ⟨names, hmem, hname⟩
    exact Part.exists_read_ne hmem hname
  · rintro ⟨es, v, -, hne⟩
    by_contra hnone
    have hname : ∀ names ∈ d.names, name ∉ names := fun names hmem hin => hnone ⟨names, hmem, hin⟩
    exact hne (Revised.unknown hname v).read_eq

/-- A condition. -/
def plainCondition : Entries := [(.text "field", .text "level"), (.text "operator", .text "eq")]

/-- The same behind a second operator that would not be read. -/
def shadowedCondition : Entries :=
  [(.text "op", .int 7), (.text "operator", .text "eq"), (.text "field", .text "level")]

/-- A rule with a condition and a window. -/
def plainRule : Entries :=
  [(.text "id", .text "r"), (.text "conditions", .list [.map plainCondition]),
    (.text "timeWindow", .map [(.text "start", .text "2024-03-01")])]

/-- The same with a second window that would not be read, and a comment. -/
def shadowedRule : Entries :=
  [(.text "id", .text "r"), (.text "conditions", .list [.map shadowedCondition]),
    (.text "timeWindow", .map [(.text "start", .text "2024-03-01")]),
    (.text "time_window", .int 5), (.text "comment", .null)]

/-- Entries that would not be read are passed over beside those that are read in their place. -/
theorem parse_revised_shadowed :
    parse (.map [(.text "rules", .list [.map shadowedRule]), (.text "version", .int 2)])
        = parse (.map [(.text "rules", .list [.map plainRule])]) ∧
      (parse (.map [(.text "rules", .list [.map plainRule])])).isOk = true := by
  have hcondition : Revised .condition (.map plainCondition) (.map shadowedCondition) := by
    have hset : Revised .condition (.map plainCondition)
        (.map (plainCondition.insert (.text "op") (.int 7))) :=
      @Revised.second _ _ "operator" _ _ (by decide) rfl (.int 7)
    exact hset.trans (.reordered (by decide) (List.reverse_perm _).symm)
  have hrule : Revised .rule (.map plainRule) (.map shadowedRule) := by
    have hitem : Revised .rule (.map plainRule)
        (.map (plainRule.insert (.text "conditions") (.list [.map shadowedCondition]))) :=
      @Revised.item _ _ _ _ _ _ _ _ [] [] rfl rfl rfl rfl hcondition
    have hwindow : Revised .rule _ (.map (Entries.insert (.text "time_window") (.int 5)
        (plainRule.insert (.text "conditions") (.list [.map shadowedCondition])))) :=
      @Revised.second _ _ "timeWindow" _ _ (by decide) rfl (.int 5)
    exact (hitem.trans hwindow).trans (@Revised.unknown _ _ "comment" (by decide) .null)
  have hdocument : Revised .document (.map [(.text "rules", .list [.map plainRule])])
      (.map [(.text "rules", .list [.map shadowedRule]), (.text "version", .int 2)]) := by
    have hitem : Revised .document (.map [(.text "rules", .list [.map plainRule])])
        (.map [(.text "rules", .list [.map shadowedRule])]) :=
      @Revised.item _ _ _ "rules" _ (.list [.map shadowedRule]) _ _ [] [] rfl rfl rfl rfl hrule
    exact hitem.trans (@Revised.unknown _ _ "version" (by decide) (.int 2))
  exact ⟨parse_revised.1 _ _ hdocument, by decide +kernel⟩

end RuleSet
end OfferRules
