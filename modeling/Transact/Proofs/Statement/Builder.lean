/-
# What a builder makes of its bindings

A statement is built from a text and from bindings in any order. The first binding
that fails decides, whatever is bound after it; then the first error in the text;
then the placeholders that nothing was bound to, of which each is named once. Only
where there is none of these is there a statement, and it holds the last value of
every key that was bound, whether the text asks for it or not.

The bindings are data here, so that any sequence of them is one. What was bound is
described by where in the sequence it stands, not by the map that the builder keeps.
-/

import Mathlib.Data.List.Induction
import Mathlib.Data.List.Sort
import Transact.Call
import Transact.Proofs.Statement.Scanner
import Transact.Proofs.Text.Order
import Transact.Statement.Basic

namespace Transact

namespace ParamKey

/-- The order in which placeholders are named: names first, by their bytes, and then positions. -/
def Precedes : ParamKey → ParamKey → Prop
  | .named first, .named second => Utf8.encode first < Utf8.encode second
  | .named _, .positional _ => True
  | .positional _, .named _ => False
  | .positional first, .positional second => first < second

theorem precedes_iff {first second : ParamKey} : first.Precedes second ↔ first < second := by
  cases first <;> cases second
  case named.named => exact Utf8.encode_lt_iff
  all_goals exact Iff.rfl

instance : Std.Irrefl Precedes where
  irrefl _ h := Std.lt_irrefl (precedes_iff.mp h)

instance : Std.Antisymm Precedes where
  antisymm _ _ h h' := absurd (Std.lt_trans (precedes_iff.mp h)
    (precedes_iff.mp h')) Std.lt_irrefl

@[simp] theorem ofName_at (name : String) : ofName ("@" ++ name) = .named name := by
  have hat : ("@" ++ name).toList = '@' :: name.toList := by simp
  rw [ofName, hat]
  simp only [String.ofList_toList]

theorem ofName_of_head {name : String} (hname : name.toList.head? ≠ some '@') :
    ofName name = .named name := by
  rw [ofName]
  split
  case h_1 rest hrest =>
    rw [hrest] at hname
    exact absurd rfl hname
  case h_2 => rfl

end ParamKey

namespace Statement

/-! ## Bindings -/

/-- A call that binds something. -/
inductive Binding where
  | named (name : String) (value : Except Error Value)
  | positional (position : Nat) (value : Except Error Value)
  | native (name : String) (content : Native) (type : Option DataType)

namespace Binding

/-- Make the call. -/
def make (builder : Builder) : Binding → Builder
  | named name value => builder.bind name value
  | positional position value => builder.bindPosition position value
  | native name content type => builder.bindNative name content type

/-- The key that is bound. -/
def key : Binding → ParamKey
  | named name _ | native name .. => .ofName name
  | positional position _ => .positional position

/-- The value that it is bound to, unless the binding fails. -/
def outcome : Binding → Except Error Value
  | named _ value => value
  | positional position value =>
    if position = 0 then .error (.construction .positionZero) else value
  | native name content type =>
    match type <|> content.inferType? with
    | some type => content.encode type
    | none => .error (.typeMismatch (.noInferredType (bareName name)))

theorem make_eq (builder : Builder) (binding : Binding) :
    binding.make builder = builder.insert binding.key binding.outcome := by
  cases binding with
  | named name value => rfl
  | native name content type => rfl
  | positional position value =>
      simp only [make, Builder.bindPosition, key, outcome]
      split <;> rfl

end Binding

/-- The binding does not fail. -/
def Binding.Succeeds (binding : Binding) : Prop := ∃ value, binding.outcome = .ok value

/-- The builder of a text after bindings. -/
def bound (sql : String) (bindings : List Binding) : Builder :=
  bindings.foldl Binding.make (builder sql)

variable {sql : String} {bindings front back : List Binding} {error : Error} {key : ParamKey}
  {value : Value}

theorem bound_concat (sql : String) (bindings : List Binding) (binding : Binding) :
    bound sql (bindings ++ [binding]) =
      (bound sql bindings).insert binding.key binding.outcome := by
  rw [bound, List.foldl_append, List.foldl_cons, List.foldl_nil, Binding.make_eq, bound]

@[simp] theorem Builder.sql_insert (builder : Builder) (key : ParamKey)
    (outcome : Except Error Value) : (builder.insert key outcome).sql = builder.sql := by
  cases outcome <;> rfl

@[simp] theorem bareName_at (name : String) : bareName ("@" ++ name) = bareName name := by
  simp [bareName]

@[simp] theorem sql_bound (sql : String) (bindings : List Binding) :
    (bound sql bindings).sql = sql := by
  induction bindings using List.reverseRecOn with
  | nil => rfl
  | append_singleton bindings binding ih => rw [bound_concat, Builder.sql_insert, ih]

/-- An error that has been noted stays. -/
theorem error_bound_append (h : (bound sql front).error = some error) (back : List Binding) :
    (bound sql (front ++ back)).error = some error := by
  induction back using List.reverseRecOn with
  | nil => rwa [List.append_nil]
  | append_singleton back binding ih =>
      rw [← List.append_assoc, bound_concat]
      cases binding.outcome with
      | ok value => exact ih
      | error other =>
          simp only [Builder.insert, Builder.fail, ih]
          rfl

/-- Without a binding that fails no error is noted. -/
theorem error_bound_of_forall (h : ∀ binding ∈ bindings, binding.Succeeds) :
    (bound sql bindings).error = none := by
  induction bindings using List.reverseRecOn with
  | nil => rfl
  | append_singleton bindings binding ih =>
      obtain ⟨value, hvalue⟩ := h binding (by simp)
      rw [bound_concat, hvalue]
      exact ih fun other hother => h other (by simp [hother])

/-- The first binding that fails is the one whose error is noted. -/
theorem error_bound_of_first (hfront : ∀ binding ∈ front, binding.Succeeds)
    {failing : Binding} (hfailing : failing.outcome = .error error) (back : List Binding) :
    (bound sql (front ++ failing :: back)).error = some error := by
  have hnoted : (bound sql (front ++ [failing])).error = some error := by
    rw [bound_concat, hfailing, Builder.insert, Builder.fail, error_bound_of_forall hfront]
    rfl
  have happend := error_bound_append hnoted back
  rwa [List.append_assoc] at happend

/-! ## The last value of a key -/

/-- The last binding of a key gives it a value. -/
def LastBinds (bindings : List Binding) (key : ParamKey) (value : Value) : Prop :=
  ∃ front last back, bindings = front ++ last :: back ∧ last.key = key ∧
    last.outcome = .ok value ∧ ∀ later ∈ back, later.key ≠ key

theorem lastBinds_concat_iff {binding : Binding} :
    LastBinds (bindings ++ [binding]) key value ↔
      binding.key = key ∧ binding.outcome = .ok value ∨
        binding.key ≠ key ∧ LastBinds bindings key value := by
  constructor
  · rintro ⟨front, last, back, hsplit, hkey, hvalue, hback⟩
    rcases List.eq_nil_or_concat' back with rfl | ⟨back, other, rfl⟩
    · obtain ⟨-, hlast⟩ := List.append_inj' hsplit rfl
      cases hlast
      exact .inl ⟨hkey, hvalue⟩
    · rw [← List.cons_append, ← List.append_assoc] at hsplit
      obtain ⟨rfl, hlast⟩ := List.append_inj' hsplit rfl
      cases hlast
      refine .inr ⟨hback _ (by simp), front, last, back, rfl, hkey, hvalue, ?_⟩
      exact fun later hlater => hback later (by simp [hlater])
  · rintro (⟨hkey, hvalue⟩ | ⟨hkey, front, last, back, rfl, hlast, hvalue, hback⟩)
    · exact ⟨bindings, binding, [], rfl, hkey, hvalue, by simp⟩
    · refine ⟨front, last, back ++ [binding], by simp, hlast, hvalue, fun later hlater => ?_⟩
      rcases List.mem_append.mp hlater with hlater | hlater
      · exact hback later hlater
      · rwa [List.mem_singleton.mp hlater]

/-- The builder holds the last value of every key. -/
theorem get?_params_bound_iff (h : ∀ binding ∈ bindings, binding.Succeeds) :
    (bound sql bindings).params.get? key = some value ↔ LastBinds bindings key value := by
  induction bindings using List.reverseRecOn with
  | nil => simp [bound, builder, LastBinds]
  | append_singleton bindings binding ih =>
      obtain ⟨own, hown⟩ := h binding (by simp)
      have hrest := ih fun other hother => h other (by simp [hother])
      rw [bound_concat, hown, Builder.insert, OrderedMap.get?_insert, lastBinds_concat_iff, hown]
      by_cases hkey : key = binding.key
      · simp [hkey]
      · simp [hkey, Ne.symm hkey, hrest]

/-- The keys in the builder are those that were bound. -/
theorem contains_params_bound_iff (h : ∀ binding ∈ bindings, binding.Succeeds) :
    (bound sql bindings).params.contains key = true ↔
      ∃ binding ∈ bindings, binding.key = key := by
  induction bindings using List.reverseRecOn with
  | nil => simp [bound, builder]
  | append_singleton bindings binding ih =>
      obtain ⟨own, hown⟩ := h binding (by simp)
      have hrest := ih fun other hother => h other (by simp [hother])
      rw [bound_concat, hown, Builder.insert, OrderedMap.contains_insert]
      simp only [Bool.or_eq_true, decide_eq_true_eq, hrest, List.mem_append, List.mem_singleton,
        or_and_right, exists_or, exists_eq_left]
      rw [or_comm, eq_comm (a := key)]

/-! ## The placeholders of a text -/

theorem collect_ok (keys : List ParamKey) :
    (keys.map (Except.ok (ε := Error))).mapM id = .ok keys := by
  induction keys with
  | nil => rfl
  | cons key keys ih =>
      rw [List.map_cons, List.mapM_cons, ih]
      rfl

theorem collect_error (keys : List ParamKey) (error : Error) (back : List (Except Error ParamKey)) :
    (keys.map Except.ok ++ Except.error error :: back).mapM id = .error error := by
  induction keys with
  | nil => rfl
  | cons key keys ih =>
      rw [List.map_cons, List.cons_append, List.mapM_cons, ih]
      rfl

/-- What the scanner reports are keys throughout, or keys up to its first error. -/
theorem keys_or_error (found : List (Except Error ParamKey)) :
    (∃ keys, found = List.map .ok keys) ∨
      ∃ keys error back, found = List.map .ok keys ++ .error error :: back := by
  induction found with
  | nil => exact .inl ⟨[], rfl⟩
  | cons report found ih =>
      cases report with
      | error error => exact .inr ⟨[], error, found, rfl⟩
      | ok key =>
          rcases ih with ⟨keys, rfl⟩ | ⟨keys, error, back, rfl⟩
          · exact .inl ⟨key :: keys, rfl⟩
          · exact .inr ⟨key :: keys, error, back, rfl⟩

theorem contains_foldl_insert (keys : List ParamKey) (set : OrderedSet ParamKey) :
    (keys.foldl (fun set key => set.insert key ()) set).contains key = true ↔
      key ∈ keys ∨ set.contains key = true := by
  induction keys generalizing set with
  | nil => simp
  | cons own keys ih =>
      rw [List.foldl_cons, ih, OrderedMap.contains_insert]
      simp only [Bool.or_eq_true, decide_eq_true_eq, List.mem_cons]
      tauto

/-- The set of the placeholders holds those that the scanner reports. -/
theorem referenced_eq_ok {keys : List ParamKey} (hscan : Scanner.scan sql = keys.map .ok) :
    ∃ set, Builder.referenced sql = .ok set ∧ ∀ key, key ∈ set.keys ↔ key ∈ keys := by
  refine ⟨keys.foldl (fun set key => set.insert key ()) .empty, ?_, fun key => ?_⟩
  · rw [Builder.referenced, hscan, collect_ok]
    rfl
  · simp [OrderedMap.mem_keys_iff, contains_foldl_insert]

theorem referenced_eq_error {keys : List ParamKey} {back : List (Except Error ParamKey)}
    (hscan : Scanner.scan sql = keys.map .ok ++ .error error :: back) :
    Builder.referenced sql = .error error := by
  rw [Builder.referenced, hscan, collect_error]
  rfl

/-! ## Building -/

/-- What a builder makes of a text and bindings, by what it comes upon first. -/
inductive Builds (sql : String) (bindings : List Binding) : Except Error Statement → Prop where
  /-- A binding fails, and none before it does. -/
  | badBinding {front failing back error} (hsplit : bindings = front ++ failing :: back)
      (hfront : ∀ binding ∈ front, binding.Succeeds) (hfailing : failing.outcome = .error error) :
      Builds sql bindings (.error error)
  /-- The bindings succeed, and the scanner reports an error, and none before it. -/
  | badText {keys error back} (hbindings : ∀ binding ∈ bindings, binding.Succeeds)
      (hscan : Scanner.scan sql = List.map .ok keys ++ .error error :: back) :
      Builds sql bindings (.error error)
  /-- The text can be scanned, and some placeholders are bound to nothing. -/
  | unbound {keys unbound} (hbindings : ∀ binding ∈ bindings, binding.Succeeds)
      (hscan : Scanner.scan sql = List.map .ok keys)
      (hne : unbound ≠ []) (hsorted : unbound.Pairwise ParamKey.Precedes)
      (hmem : ∀ key, key ∈ unbound ↔ key ∈ keys ∧ ∀ binding ∈ bindings, binding.key ≠ key) :
      Builds sql bindings (.error (.construction (.unbound unbound sql)))
  /-- All placeholders are bound. -/
  | statement {keys params} (hbindings : ∀ binding ∈ bindings, binding.Succeeds)
      (hscan : Scanner.scan sql = List.map .ok keys)
      (hbound : ∀ key ∈ keys, ∃ binding ∈ bindings, binding.key = key)
      (hparams : ∀ key value, params.get? key = some value ↔ LastBinds bindings key value) :
      Builds sql bindings (.ok ⟨sql, params⟩)

/-- Bindings succeed throughout, or up to the first that fails. -/
theorem succeed_or_fails (bindings : List Binding) :
    (∀ binding ∈ bindings, binding.Succeeds) ∨
      ∃ front failing back error, bindings = front ++ failing :: back ∧
        (∀ binding ∈ front, binding.Succeeds) ∧ failing.outcome = .error error := by
  induction bindings with
  | nil => exact .inl (by simp)
  | cons binding bindings ih =>
      cases houtcome : binding.outcome with
      | error error => exact .inr ⟨[], binding, bindings, error, rfl, by simp, houtcome⟩
      | ok value =>
          have hown : binding.Succeeds := ⟨value, houtcome⟩
          rcases ih with hall | ⟨front, failing, back, error, rfl, hfront, hfailing⟩
          · exact .inl (List.forall_mem_cons.mpr ⟨hown, hall⟩)
          · exact .inr ⟨binding :: front, failing, back, error, rfl,
              List.forall_mem_cons.mpr ⟨hown, hfront⟩, hfailing⟩

/-- Where no binding fails and the text can be scanned, what is left to do is to look for
placeholders without a value. -/
theorem build_bound_eq {keys : List ParamKey} (hbindings : ∀ binding ∈ bindings, binding.Succeeds)
    (hscan : Scanner.scan sql = keys.map .ok) :
    ∃ unbound : List ParamKey, unbound.Pairwise ParamKey.Precedes ∧
      (∀ key, key ∈ unbound ↔ key ∈ keys ∧ ∀ binding ∈ bindings, binding.key ≠ key) ∧
      (bound sql bindings).build =
        if unbound = [] then .ok ⟨sql, (bound sql bindings).params⟩
        else .error (.construction (.unbound unbound sql)) := by
  obtain ⟨set, hset, hkeys⟩ := referenced_eq_ok hscan
  refine ⟨set.keys.filter fun key => !(bound sql bindings).params.contains key, ?_, ?_, ?_⟩
  · refine List.Pairwise.filter _ (List.pairwise_map.mpr (set.sorted.imp ?_))
    exact fun hlt => ParamKey.precedes_iff.mpr hlt
  · intro key
    rw [List.mem_filter, hkeys, Bool.not_eq_true', ← Bool.not_eq_true,
      contains_params_bound_iff hbindings]
    simp
  · rw [Builder.build, error_bound_of_forall hbindings, sql_bound, hset]
    simp only [bind, Except.bind]
    split
    case h_1 hnil => rw [if_pos hnil]; rfl
    case h_2 hne => rw [if_neg hne]; rfl

/-- Whatever a builder is said to make is what it makes. -/
theorem build_of_builds {outcome : Except Error Statement} (h : Builds sql bindings outcome) :
    (bound sql bindings).build = outcome := by
  cases h with
  | badBinding hsplit hfront hfailing =>
      subst hsplit
      rw [Builder.build, error_bound_of_first hfront hfailing]
  | badText hbindings hscan =>
      rw [Builder.build, error_bound_of_forall hbindings, sql_bound, referenced_eq_error hscan]
      rfl
  | unbound hbindings hscan hne hsorted hmem =>
      obtain ⟨unbound, hown, hownmem, hbuild⟩ := build_bound_eq hbindings hscan
      have heq := hown.eq_of_mem_iff hsorted fun key => (hownmem key).trans (hmem key).symm
      rw [hbuild, heq, if_neg hne]
  | statement hbindings hscan hbound hparams =>
      obtain ⟨unbound, -, hmem, hbuild⟩ := build_bound_eq hbindings hscan
      have hnil : unbound = [] := List.eq_nil_iff_forall_not_mem.mpr fun key hkey => by
        obtain ⟨hused, hfree⟩ := (hmem key).mp hkey
        obtain ⟨binding, hbinding, hown⟩ := hbound key hused
        exact hfree binding hbinding hown
      rw [hbuild, if_pos hnil]
      congr 2
      apply OrderedMap.ext
      intro key
      apply Option.ext
      intro value
      rw [get?_params_bound_iff hbindings, hparams]

/-- Whatever a builder makes can be said of it. -/
theorem builds_build (sql : String) (bindings : List Binding) :
    Builds sql bindings (bound sql bindings).build := by
  rcases succeed_or_fails bindings with
    hbindings | ⟨front, failing, back, error, hsplit, hfront, hfailing⟩
  case inr =>
    have hbuilds : Builds sql bindings (.error error) := .badBinding hsplit hfront hfailing
    rwa [build_of_builds hbuilds]
  rcases keys_or_error (Scanner.scan sql) with ⟨keys, hscan⟩ | ⟨keys, error, back, hscan⟩
  case inl.inr =>
    have hbuilds : Builds sql bindings (.error error) := .badText hbindings hscan
    rwa [build_of_builds hbuilds]
  obtain ⟨unbound, hsorted, hmem, hbuild⟩ := build_bound_eq hbindings hscan
  rw [hbuild]
  split
  case isFalse hne => exact .unbound hbindings hscan hne hsorted hmem
  case isTrue hnil =>
    refine .statement hbindings hscan (fun key hkey => ?_)
      fun key value => get?_params_bound_iff hbindings
    by_contra hfree
    have hunbound : key ∈ unbound :=
      (hmem key).mpr ⟨hkey, fun binding hbinding heq => hfree ⟨binding, hbinding, heq⟩⟩
    rw [hnil] at hunbound
    exact absurd hunbound List.not_mem_nil

/-- Building comes to what the first bad binding, the text and the placeholders without a value
decide, in this order. A name is the same key with an `@` in front and without. -/
theorem build_eq_iff (sql : String) (bindings : List Binding) (outcome : Except Error Statement) :
    ((bound sql bindings).build = outcome ↔ Builds sql bindings outcome) ∧
      ∀ name : String, name.toList.head? ≠ some '@' →
        ParamKey.ofName ("@" ++ name) = .named name ∧ ParamKey.ofName name = .named name ∧
          (∀ (builder : Builder) (value : Except Error Value),
            builder.bind ("@" ++ name) value = builder.bind name value) ∧
          (∀ (builder : Builder) (content : Native) (type : Option DataType),
            builder.bindNative ("@" ++ name) content type =
              builder.bindNative name content type) ∧
          ∀ statement : Statement, statement.value? ("@" ++ name) = statement.value? name ∧
            ∀ target, statement.param target ("@" ++ name) = statement.param target name := by
  refine ⟨⟨fun h => h ▸ builds_build sql bindings, build_of_builds⟩, fun name hname => ?_⟩
  have hbare : ParamKey.ofName name = .named name := ParamKey.ofName_of_head hname
  have hsame : ParamKey.ofName ("@" ++ name) = ParamKey.ofName name :=
    (ParamKey.ofName_at name).trans hbare.symm
  refine ⟨ParamKey.ofName_at name, hbare, fun builder value => ?_,
    fun builder content type => ?_, fun statement => ?_⟩
  · rw [Builder.bind, Builder.bind, hsame]
  · rw [Builder.bindNative, Builder.bindNative, hsame, bareName_at]
  · have hvalue : statement.value? ("@" ++ name) = statement.value? name := by
      rw [value?, value?, hsame]
    refine ⟨hvalue, fun target => ?_⟩
    rw [param, param, hvalue, bareName_at]

/-- Three placeholders of a text have no value, one of them asked for twice. They are named in
order, and a value that is not asked for does not help. -/
theorem build_eq_iff_out_of_order :
    let bindings := [Binding.named "@c" (.ok (.null (.scalar .bool)))]
    (bound "@b ?@a@b" bindings).build =
        .error (.construction
          (.unbound [.named "a", .named "b", .positional 1] "@b ?@a@b")) ∧
      "c".toList.head? ≠ some '@' ∧ ParamKey.ofName "@c" = .named "c" := by
  intro bindings
  have hname {c : Char} {behind : List Char} (hc : Word.isNameChar c = true)
      (hdigit : c.isDigit = false) (hbehind : ∀ next ∈ behind.head?, Word.isNameChar next = false) :
      Grammar.Lexeme behind ['@', c] (.named (String.ofList [c])) :=
    .named (by simpa using hc) hdigit hbehind
  have hfirst : Grammar.Lexeme [' ', '?', '@', 'a', '@', 'b'] ['@', 'b'] (.named "b") :=
    hname (by decide) (by decide) (by rintro _ ⟨⟩; decide)
  have hblank : Grammar.Lexeme ['?', '@', 'a', '@', 'b'] [' '] .nothing :=
    .other (by decide) (by decide) (by decide)
  have hmark : Grammar.Lexeme ['@', 'a', '@', 'b'] ['?'] .positional := .positional
  have hsecond : Grammar.Lexeme ['@', 'b'] ['@', 'a'] (.named "a") :=
    hname (by decide) (by decide) (by rintro _ ⟨⟩; decide)
  have hthird : Grammar.Lexeme [] ['@', 'b'] (.named "b") :=
    hname (by decide) (by decide) (by simp)
  have hsplits : Grammar.Splits "@b ?@a@b".toList
      [.named "b", .nothing, .positional, .named "a", .named "b"] :=
    .cons hfirst (.cons hblank (.cons hmark (.cons hsecond (.cons hthird .nil))))
  have hscan : Scanner.scan "@b ?@a@b" =
      List.map .ok [.named "b", .positional 1, .named "a", .named "b"] :=
    Scanner.scanFrom_of_splits hsplits 0
  have hsucceeds : ∀ binding ∈ bindings, binding.Succeeds := by
    intro binding hbinding
    rw [List.mem_singleton.mp hbinding]
    exact ⟨_, rfl⟩
  have hc : "c".toList.head? ≠ some '@' := by decide
  refine ⟨(build_eq_iff _ _ _).1.mpr (.unbound hsucceeds hscan (by simp) ?_ ?_), hc,
    ((build_eq_iff "" [] (.error (.construction .positionZero))).2 "c" hc).1⟩
  · have hsorted : [ParamKey.named "a", .named "b", .positional 1].Pairwise (· < ·) := by decide
    exact hsorted.imp ParamKey.precedes_iff.mpr
  · intro key
    have hkey : (Binding.named "@c" (.ok (.null (.scalar .bool)))).key = .named "c" :=
      ParamKey.ofName_at "c"
    simp only [bindings, List.mem_cons, List.not_mem_nil]
    grind

end Statement

end Transact
