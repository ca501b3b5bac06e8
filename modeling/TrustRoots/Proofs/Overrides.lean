import Mathlib.Data.List.Nodup
import TrustRoots.Config
import TrustRoots.Proofs.DistinctKeys

/-! Settings that override the defaults. A document is taken with all that its root table binds, or it is
refused: every key has to be that of a setting and every value a text, and nothing of a document counts
if anything in it is refused. -/

namespace TrustRoots.Config

def IsSetting (key : String) : Prop :=
  key = "resource" ∨ key = "access_token"

def Allowed (binding : String × Toml.Value) : Prop :=
  IsSetting binding.1 ∧ ∃ content, binding.2 = .text content

/-- A binding that the settings cannot take, and why. A value under a foreign key is not looked at. -/
inductive Refused : String × Toml.Value → ConfigError → Prop where
  | foreign {key : String} {value : Toml.Value} (foreign : ¬IsSetting key) : Refused (key, value) (.unknownField key)
  | mistyped {key found : String} {value : Toml.Value} (setting : IsSetting key)
      (other : ∀ content, value ≠ .text content) (kind : kind? value = some found) :
      Refused (key, value) (.invalidType found)
  | valueless {key : String} {value : Toml.Value} (setting : IsSetting key)
      (other : ∀ content, value ≠ .text content) (kind : kind? value = none) : Refused (key, value) .malformed

/-- Each setting is the text that its key is bound to, as it stands, or is left out like its key. -/
structure Spelled (table : Toml.Table) (config : Config) : Prop where
  resource : table.value? "resource" = config.resource.map .text
  accessToken : table.value? "access_token" = config.accessToken.map .text

/-- The settings with what a table binds laid over them. -/
structure Overlaid (start : Config) (table : Toml.Table) (config : Config) : Prop where
  resource : config.resource.map .text = (table.value? "resource").or (start.resource.map .text)
  accessToken : config.accessToken.map .text = (table.value? "access_token").or (start.accessToken.map .text)

variable {config start : Config} {table front back : Toml.Table} {binding : String × Toml.Value} {error : ConfigError}

theorem Refused.not_allowed (refused : Refused binding error) : ¬Allowed binding := by
  rintro ⟨setting, content, text⟩
  cases refused with
  | foreign foreign => exact foreign setting
  | mistyped _ other _ => exact other content text
  | valueless _ other _ => exact other content text

private theorem exists_refused (notAllowed : ¬Allowed binding) : ∃ error, Refused binding error := by
  obtain ⟨key, value⟩ := binding
  by_cases setting : IsSetting key
  · have other : ∀ content, value ≠ .text content := fun content text => notAllowed ⟨setting, content, text⟩
    cases kind : kind? value with
    | none => exact ⟨_, .valueless setting other kind⟩
    | some found => exact ⟨_, .mistyped setting other kind⟩
  · exact ⟨_, .foreign setting⟩

private theorem allowed_or_refusing (table : Toml.Table) :
    (∀ binding ∈ table, Allowed binding) ∨ ∃ binding ∈ table, ¬Allowed binding := by
  by_cases allowed : ∀ binding ∈ table, Allowed binding
  · exact .inl allowed
  · simp only [Classical.not_forall, exists_prop] at allowed
    exact .inr allowed

private theorem text_of_other {value : Toml.Value} (other : ∀ content, value ≠ .text content) :
    text value = match kind? value with
      | some found => .error (.invalidType found)
      | none => .error .malformed := by
  cases value with
  | text content => exact absurd rfl (other content)
  | integer | real | boolean | moment | array | tables | table => rfl

private theorem addBinding_of_setting (config : Config) {key : String} {value : Toml.Value} (setting : IsSetting key)
    (unread : text value = .error error) : addBinding config (key, value) = .error error := by
  rcases setting with rfl | rfl
  all_goals
    simp only [addBinding, unread]
    rfl

theorem addBinding_of_refused (config : Config) (refused : Refused binding error) :
    addBinding config binding = .error error := by
  cases refused with
  | foreign foreign =>
    obtain ⟨resource, accessToken⟩ := not_or.1 foreign
    rw [addBinding, if_neg resource, if_neg accessToken]
    rfl
  | mistyped setting other kind | valueless setting other kind =>
    exact addBinding_of_setting config setting (by rw [text_of_other other, kind])

theorem Refused.unique {other : ConfigError} (refused : Refused binding error) (otherRefused : Refused binding other) :
    error = other := by
  have failed := addBinding_of_refused {} refused
  rw [addBinding_of_refused {} otherRefused] at failed
  exact (Except.error.inj failed).symm

private theorem foldlM_of_allowed (distinct : table.Distinct) (allowed : ∀ binding ∈ table, Allowed binding)
    (start : Config) : ∃ config, table.foldlM addBinding start = .ok config ∧ start.Overlaid table config := by
  induction table generalizing start with
  | nil => exact ⟨start, rfl, rfl, rfl⟩
  | cons binding table ih =>
    obtain ⟨⟨setting, content, text⟩, allowedOthers⟩ := List.forall_mem_cons.1 allowed
    obtain ⟨key, value⟩ := binding
    obtain ⟨fresh, others⟩ := List.nodup_cons.1 distinct
    have absent : Toml.Table.value? table key = none := Toml.Table.value?_eq_none_iff.2 fresh
    dsimp only at setting text
    subst text
    -- The key does not come again, so what is set here stays.
    rcases setting with rfl | rfl
    · obtain ⟨config, taken, overlaid⟩ := ih others allowedOthers { start with resource := some content }
      refine ⟨config, taken, ?_, ?_⟩
      · rw [overlaid.resource, absent]
        rfl
      · exact overlaid.accessToken
    · obtain ⟨config, taken, overlaid⟩ := ih others allowedOthers { start with accessToken := some content }
      refine ⟨config, taken, ?_, ?_⟩
      · exact overlaid.resource
      · rw [overlaid.accessToken, absent]
        rfl

private theorem foldlM_of_refused (distinct : front.Distinct) (allowed : ∀ binding ∈ front, Allowed binding)
    (refused : Refused binding error) (start : Config) :
    (front ++ binding :: back).foldlM addBinding start = .error error := by
  obtain ⟨config, taken, _⟩ := foldlM_of_allowed distinct allowed start
  rw [List.foldlM_append, taken]
  change (binding :: back).foldlM addBinding config = _
  rw [List.foldlM_cons, addBinding_of_refused config refused]
  rfl

private theorem exists_first_refused (refusing : ∃ binding ∈ table, ¬Allowed binding) :
    ∃ front binding back, table = front ++ binding :: back ∧ (∀ earlier ∈ front, Allowed earlier) ∧ ¬Allowed binding := by
  classical
  obtain ⟨binding, member, notAllowed⟩ := refusing
  have found : (table.find? fun binding => ¬Allowed binding).isSome :=
    List.find?_isSome.2 ⟨binding, member, decide_eq_true notAllowed⟩
  obtain ⟨first, found⟩ := Option.isSome_iff_exists.1 found
  obtain ⟨fails, front, back, split, before⟩ := List.find?_eq_some_iff_append.1 found
  refine ⟨front, first, back, split, ?_, of_decide_eq_true fails⟩
  intro earlier member
  simpa using before earlier member

/-- The bindings in the order in which they are visited. -/
def visited (table : Toml.Table) : Toml.Table :=
  table.mergeSort fun left right => left.1 ≤ right.1

private theorem perm_visited (table : Toml.Table) : (visited table).Perm table :=
  List.mergeSort_perm table _

private theorem ascending_visited (table : Toml.Table) :
    (visited table).Pairwise fun left right => left.1 ≤ right.1 := by
  have sorted := @List.pairwise_mergeSort (String × Toml.Value) (fun left right => left.1 ≤ right.1) ?_ ?_ table
  · exact sorted.imp of_decide_eq_true
  · intro first second third before after
    exact decide_eq_true (String.le_trans (of_decide_eq_true before) (of_decide_eq_true after))
  · intro left right
    rw [Bool.or_eq_true, decide_eq_true_iff, decide_eq_true_iff]
    exact String.le_total left.1 right.1

/-- Of all bindings that are refused the one with the least key is met first. -/
theorem ofTable_of_refusing (distinct : table.Distinct) (refusing : ∃ binding ∈ table, ¬Allowed binding) :
    ∃ error, ofTable table = .error error ∧ ∃ binding ∈ table, Refused binding error ∧
      ∀ other ∈ table, ¬Allowed other → binding.1 ≤ other.1 := by
  have same := perm_visited table
  obtain ⟨front, binding, back, split, allowed, notAllowed⟩ : ∃ front binding back, visited table = front ++ binding :: back ∧
      (∀ earlier ∈ front, Allowed earlier) ∧ ¬Allowed binding := by
    refine exists_first_refused ?_
    obtain ⟨binding, member, notAllowed⟩ := refusing
    exact ⟨binding, same.mem_iff.2 member, notAllowed⟩
  obtain ⟨error, refused⟩ := exists_refused notAllowed
  have distinctFront : Toml.Table.Distinct front := Toml.Table.Distinct.front (split ▸ distinct.perm same)
  refine ⟨error, ?_, binding, ?_, refused, ?_⟩
  · change (visited table).foldlM addBinding {} = _
    rw [split]
    exact foldlM_of_refused distinctFront allowed refused {}
  · rw [← same.mem_iff, split]
    exact List.mem_append_right front List.mem_cons_self
  · intro other member fails
    -- Nothing in front fails, and the keys behind are no less.
    have ascending := ascending_visited table
    rw [split, List.pairwise_append, List.pairwise_cons] at ascending
    rw [← same.mem_iff, split] at member
    rcases List.mem_append.1 member with earlier | here
    · exact absurd (allowed other earlier) fails
    · rcases List.mem_cons.1 here with rfl | later
      · exact String.le_refl _
      · exact ascending.2.1.1 other later

theorem Spelled.unique {other : Config} (spelled : Spelled table config) (otherSpelled : Spelled table other) :
    config = other := by
  have inj : Function.Injective (Option.map Toml.Value.text) :=
    Option.map_injective fun _ _ same => Toml.Value.text.inj same
  obtain ⟨resource, accessToken⟩ := config
  obtain ⟨otherResource, otherAccessToken⟩ := other
  obtain rfl : resource = otherResource := inj (spelled.resource.symm.trans otherSpelled.resource)
  obtain rfl : accessToken = otherAccessToken := inj (spelled.accessToken.symm.trans otherSpelled.accessToken)
  rfl

theorem ofTable_of_allowed (distinct : table.Distinct) (allowed : ∀ binding ∈ table, Allowed binding) :
    ∃ config, ofTable table = .ok config ∧ Spelled table config := by
  have same := perm_visited table
  obtain ⟨config, taken, overlaid⟩ := foldlM_of_allowed (distinct.perm same)
    (fun binding member => allowed binding (same.mem_iff.1 member)) {}
  refine ⟨config, taken, ?_, ?_⟩
  · rw [overlaid.resource, distinct.value?_perm same]
    exact (Option.or_none).symm
  · rw [overlaid.accessToken, distinct.value?_perm same]
    exact (Option.or_none).symm

theorem ofTable_eq_ok_iff (distinct : table.Distinct) :
    ofTable table = .ok config ↔ (∀ binding ∈ table, Allowed binding) ∧ Spelled table config := by
  constructor
  · intro taken
    rcases allowed_or_refusing table with allowed | refusing
    · obtain ⟨found, takenFound, spelled⟩ := ofTable_of_allowed distinct allowed
      cases taken.symm.trans takenFound
      exact ⟨allowed, spelled⟩
    · obtain ⟨error, failed, _⟩ := ofTable_of_refusing distinct refusing
      cases taken.symm.trans failed
  · intro ⟨allowed, spelled⟩
    obtain ⟨found, taken, spelledFound⟩ := ofTable_of_allowed distinct allowed
    rw [taken, spelledFound.unique spelled]

theorem ofTable_eq_error_iff (distinct : table.Distinct) : ofTable table = .error error ↔
    ∃ binding ∈ table, Refused binding error ∧ ∀ other ∈ table, ¬Allowed other → binding.1 ≤ other.1 := by
  constructor
  · intro failed
    rcases allowed_or_refusing table with allowed | refusing
    · obtain ⟨config, taken, _⟩ := ofTable_of_allowed distinct allowed
      cases taken.symm.trans failed
    · obtain ⟨found, failedFound, least⟩ := ofTable_of_refusing distinct refusing
      cases failed.symm.trans failedFound
      exact least
  · intro ⟨binding, member, refused, least⟩
    obtain ⟨found, failed, first, firstMember, firstRefused, firstLeast⟩ :=
      ofTable_of_refusing distinct ⟨binding, member, refused.not_allowed⟩
    have keys : first.1 = binding.1 := String.le_antisymm (firstLeast _ member refused.not_allowed)
      (least _ firstMember firstRefused.not_allowed)
    obtain rfl := List.inj_on_of_nodup_map distinct firstMember member keys
    rw [failed, firstRefused.unique refused]

theorem ofTable_congr {other : Toml.Table} (distinct : table.Distinct) (otherDistinct : other.Distinct)
    (same : ∀ key, other.value? key = table.value? key) : ofTable other = ofTable table := by
  have members := distinct.mem_iff otherDistinct same
  cases result : ofTable table with
  | ok config =>
    obtain ⟨allowed, spelled⟩ := (ofTable_eq_ok_iff distinct).1 result
    refine (ofTable_eq_ok_iff otherDistinct).2 ⟨fun binding member => allowed binding ((members binding).1 member), ?_⟩
    exact ⟨(same _).trans spelled.resource, (same _).trans spelled.accessToken⟩
  | error error =>
    obtain ⟨binding, member, refused, least⟩ := (ofTable_eq_error_iff distinct).1 result
    exact (ofTable_eq_error_iff otherDistinct).2 ⟨binding, (members binding).2 member, refused,
      fun found within => least found ((members found).1 within)⟩

private theorem ofTomlBy_of_parsed {parse : String → Option Toml.Table} {source : String}
    (parsed : parse source = some table) :
    ofTomlBy parse source = ofTable table := by
  rw [ofTomlBy, parsed]

private theorem ofTomlBy_of_malformed {parse : String → Option Toml.Table} {source : String}
    (malformed : parse source = none) :
    ofTomlBy parse source = .error .malformed := by
  rw [ofTomlBy, malformed]

/-- Whichever way documents are parsed, as long as no table binds a key twice: a document without a root
table is malformed. The settings of one that has a root table are those that the table spells, if it binds
no other keys and binds them to texts. All other documents are refused, for the least of the keys that they
should not bind so. Documents whose tables look up the same are taken alike, whatever else is different in
them. The parser of `ofToml` is one of these. -/
theorem overrides_are_all_or_nothing {parse : String → Option Toml.Table}
    (distinct : ∀ source table, parse source = some table → table.Distinct) (source : String) :
    (parse source = none → ofTomlBy parse source = .error .malformed) ∧
    (∀ table, parse source = some table →
      ((∃ config, ofTomlBy parse source = .ok config) ↔ ∀ binding ∈ table, Allowed binding) ∧
      (∀ config, ofTomlBy parse source = .ok config → Spelled table config) ∧
      (∀ error, ofTomlBy parse source = .error error ↔ ∃ binding ∈ table, Refused binding error ∧
        ∀ other ∈ table, ¬Allowed other → binding.1 ≤ other.1) ∧
      ∀ reworded same, parse reworded = some same → (∀ key, same.value? key = table.value? key) →
        ofTomlBy parse reworded = ofTomlBy parse source) ∧
    (∀ document table, Toml.parse? document = some table → table.Distinct) ∧
    ofToml = ofTomlBy Toml.parse? := by
  refine ⟨ofTomlBy_of_malformed, ?_, fun _ _ => Toml.distinct_of_parse?, rfl⟩
  intro table parsed
  have distinctTable := distinct source table parsed
  rw [ofTomlBy_of_parsed parsed]
  refine ⟨⟨?_, ?_⟩, ?_, fun error => ofTable_eq_error_iff distinctTable, ?_⟩
  · intro ⟨config, taken⟩
    exact ((ofTable_eq_ok_iff distinctTable).1 taken).1
  · intro allowed
    obtain ⟨config, taken, _⟩ := ofTable_of_allowed distinctTable allowed
    exact ⟨config, taken⟩
  · intro config taken
    exact ((ofTable_eq_ok_iff distinctTable).1 taken).2
  · intro reworded same parsedSame lookups
    rw [ofTomlBy_of_parsed parsedSame]
    exact ofTable_congr distinctTable (distinct reworded same parsedSame) lookups

/-- One pair of blank settings in two wordings, and a document with one setting that is fine and two defects. -/
theorem overrides_are_all_or_nothing_reworded :
    ofToml "access_token=''\nresource=\"\"" = .ok ⟨some "", some ""⟩ ∧
    ofToml "resource=''\naccess_token=''" = .ok ⟨some "", some ""⟩ ∧
    ofToml "resource=''\npassword=''\naccess_token.a=1" = .error (.invalidType "map") ∧
    ofToml "resource = " = .error .malformed := by
  have first : Toml.parse? "access_token=''\nresource=\"\"" =
      some [("access_token", .text ""), ("resource", .text "")] := by rfl
  have second : Toml.parse? "resource=''\naccess_token=''" =
      some [("resource", .text ""), ("access_token", .text "")] := by rfl
  have third : Toml.parse? "resource=''\npassword=''\naccess_token.a=1" =
      some [("resource", .text ""), ("password", .text ""),
        ("access_token", .table .dotted [("a", .integer ⟨10, ['1']⟩)])] := by rfl
  have fourth : Toml.parse? "resource = " = none := by rfl
  have distinct (source : String) (table : Toml.Table) (parsed : Toml.parse? source = some table) : table.Distinct :=
    Toml.distinct_of_parse? parsed
  obtain ⟨taken, spelled, _, reworded⟩ := (overrides_are_all_or_nothing distinct _).2.1 _ first
  obtain ⟨_, _, refused, _⟩ := (overrides_are_all_or_nothing distinct _).2.1 _ third
  have accepted : ofToml "access_token=''\nresource=\"\"" = .ok ⟨some "", some ""⟩ := by
    obtain ⟨config, read⟩ := taken.2 <| List.forall_mem_cons.2
      ⟨⟨.inr rfl, _, rfl⟩, List.forall_mem_singleton.2 ⟨.inl rfl, _, rfl⟩⟩
    have spells : Spelled [("access_token", .text ""), ("resource", .text "")] ⟨some "", some ""⟩ := ⟨rfl, rfl⟩
    rw [ofToml, read, (spelled config read).unique spells]
  refine ⟨accepted, ?_, ?_, (overrides_are_all_or_nothing distinct _).1 fourth⟩
  · exact (reworded _ _ second ((distinct _ _ first).value?_perm (List.Perm.swap ..))).trans accepted
  · refine (refused _).2 ⟨_, List.mem_cons_of_mem _ (List.mem_cons_of_mem _ List.mem_cons_self), ?_, ?_⟩
    · exact .mistyped (.inr rfl) (fun _ same => Toml.Value.noConfusion same) rfl
    · rintro other member fails
      rcases List.mem_cons.1 member with rfl | member
      · exact absurd ⟨.inl rfl, _, rfl⟩ fails
      · rcases List.mem_cons.1 member with rfl | member
        · decide
        · obtain rfl := List.mem_singleton.1 member
          exact String.le_refl _

end TrustRoots.Config
