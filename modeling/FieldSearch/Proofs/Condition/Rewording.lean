import FieldSearch.Proofs.Condition.Declared
import FieldSearch.Proofs.Condition.Reading
import FieldSearch.Proofs.Entries
import Mathlib.Logic.Relation

/-!
# Documents in other words

A document may leave out members that its kind of condition is not read for, leave out parameters
that are null, and give a parameter under its name as well as under its own spelling. Such changes,
in any number, change neither the condition that the document describes nor what is wrong with the
document. Only a boost that a text gives and that is not a number keeps two readings apart.
-/

namespace FieldSearch

open Wire (Checked Parameter Problem acceptOptionalText acceptOptionalTexts nullMeansDefault)

namespace Condition

/-- The members of a document have distinct names, and a parameter is given under its name and
under another spelling only when these are the same. -/
structure GivenOnce (kind : Kind) (members : Entries Json) : Prop where
  distinct : members.names.Nodup
  once : ∀ parameter ∈ recognized kind, parameter.spelling ∈ members.names →
    parameter.name ∈ members.names → parameter.spelling = parameter.name

/-- One change of the members of a document in other words. -/
inductive Reworded (kind : Kind) : Entries Json → Entries Json → Prop
  | moved {members others : Entries Json} (same : members.Perm others) :
    Reworded kind members others
  | ignored (earlier later : Entries Json) {key : Text} (value : Json)
    (unrecognized : ∀ parameter ∈ recognized kind, ¬parameter.IsKey key) :
    Reworded kind (earlier ++ (key, value) :: later) (earlier ++ later)
  | null (earlier later : Entries Json) {key : Text} (notType : key ≠ typeParameter.name) :
    Reworded kind (earlier ++ (key, .null) :: later) (earlier ++ later)
  | renamed (earlier later : Entries Json) {parameter : Parameter} {key other : Text} (value : Json)
    (recognizes : parameter ∈ recognized kind) (own : parameter.IsKey key)
    (ownToo : parameter.IsKey other) :
    Reworded kind (earlier ++ (key, value) :: later) (earlier ++ (other, value) :: later)

/-- A document gives a parameter a value other than null. -/
def Gives (members : Entries Json) (parameter : Parameter) (value : Json) : Prop :=
  value ≠ .null ∧ ∃ key, parameter.IsKey key ∧ (key, value) ∈ members

/-- Two documents give the parameters of a kind the same values. -/
structure GiveAlike (kind : Kind) (members others : Entries Json) : Prop where
  once : GivenOnce kind members
  onceToo : GivenOnce kind others
  same : ∀ parameter ∈ recognized kind, ∀ value,
    Gives members parameter value ↔ Gives others parameter value

/-! ## Parameters given once -/

namespace GivenOnce

variable {kind : Kind} {members : Entries Json} {parameter : Parameter} {key other : Text}

/-- A parameter that is given once has one key. -/
theorem eq_of_isKey (once : GivenOnce kind members) (recognizes : parameter ∈ recognized kind)
    (own : parameter.IsKey key) (ownToo : parameter.IsKey other) (given : key ∈ members.names)
    (givenToo : other ∈ members.names) : key = other := by
  rcases own with rfl | rfl <;> rcases ownToo with rfl | rfl
  · rfl
  · exact once.once parameter recognizes given givenToo
  · exact (once.once parameter recognizes givenToo given).symm
  · rfl

/-- A parameter that is given is found. -/
theorem find?_of_mem (once : GivenOnce kind members) (recognizes : parameter ∈ recognized kind)
    {value : Json} (own : parameter.IsKey key) (member : (key, value) ∈ members) :
    parameter.find? members = some (key, value) := by
  have named : key ∈ members.names := List.mem_map_of_mem member
  have found : members.find? key = some value := Entries.find?_of_mem once.distinct member
  rw [Parameter.find?]
  rcases own with rfl | rfl
  · rw [found]
  · cases spelled : members.find? parameter.spelling with
    | none => rw [found, Option.map_some]
    | some given =>
      have same : parameter.spelling = parameter.name :=
        once.once parameter recognizes (List.mem_map_of_mem (Entries.mem_of_find? spelled)) named
      rw [same, found] at spelled
      cases spelled
      rw [same]

/-- The order of members does not matter to whether each parameter is given once. -/
theorem perm {others : Entries Json} (once : GivenOnce kind members)
    (same : members.Perm others) : GivenOnce kind others := by
  have names : members.names.Perm others.names := same.map Prod.fst
  refine ⟨names.nodup_iff.mp once.distinct, fun parameter recognizes spelled named => ?_⟩
  exact once.once parameter recognizes (names.mem_iff.mpr spelled) (names.mem_iff.mpr named)

/-- With fewer members no parameter is given more often. -/
theorem tail {entry : Text × Json} (once : GivenOnce kind (entry :: members)) :
    GivenOnce kind members := by
  refine ⟨(List.nodup_cons.mp once.distinct).2, fun parameter recognizes spelled named => ?_⟩
  exact once.once parameter recognizes (List.mem_cons_of_mem _ spelled)
    (List.mem_cons_of_mem _ named)

/-- A parameter that is given first is given nowhere else, under any name. -/
theorem notMem_tail {value : Json} (once : GivenOnce kind ((key, value) :: members))
    (recognizes : parameter ∈ recognized kind) (own : parameter.IsKey key)
    (ownToo : parameter.IsKey other) : other ∉ members.names := by
  intro later
  obtain ⟨absent, _⟩ := List.nodup_cons.mp once.distinct
  have same : key = other :=
    once.eq_of_isKey recognizes own ownToo List.mem_cons_self (List.mem_cons_of_mem _ later)
  exact absent (same ▸ later)

/-- A parameter that is given once still is under its other key. -/
theorem rename {value : Json} (once : GivenOnce kind ((key, value) :: members))
    (recognizes : parameter ∈ recognized kind) (own : parameter.IsKey key)
    (ownToo : parameter.IsKey other) : GivenOnce kind ((other, value) :: members) := by
  refine ⟨List.nodup_cons.mpr
    ⟨once.notMem_tail recognizes own ownToo, once.tail.distinct⟩, ?_⟩
  intro second recognizesToo spelled named
  rcases List.mem_cons.mp spelled with spelledHere | spelled
  · rcases List.mem_cons.mp named with namedHere | named
    · exact spelledHere.trans namedHere.symm
    · obtain rfl := Condition.eq_of_isKey recognizes recognizesToo ownToo (.inl spelledHere.symm)
      exact absurd named (once.notMem_tail recognizes own (.inr rfl))
  · rcases List.mem_cons.mp named with namedHere | named
    · obtain rfl := Condition.eq_of_isKey recognizes recognizesToo ownToo (.inr namedHere.symm)
      exact absurd spelled (once.notMem_tail recognizes own (.inl rfl))
    · exact once.tail.once second recognizesToo spelled named

end GivenOnce

/-! ## Steps -/

namespace GiveAlike

variable {kind : Kind} {members others further : Entries Json}

/-- Members give what they give. -/
theorem refl (once : GivenOnce kind members) : GiveAlike kind members members :=
  ⟨once, once, fun _ _ _ => .rfl⟩

/-- Members that give alike what others give alike give it alike. -/
theorem trans (alike : GiveAlike kind members others) (next : GiveAlike kind others further) :
    GiveAlike kind members further :=
  ⟨alike.once, next.onceToo, fun parameter recognizes value =>
    (alike.same parameter recognizes value).trans (next.same parameter recognizes value)⟩

/-- Members in another order give alike. -/
theorem of_perm (once : GivenOnce kind members) (same : members.Perm others) :
    GiveAlike kind members others := by
  refine ⟨once, once.perm same, fun parameter _ value => ?_⟩
  simp only [Gives, same.mem_iff]

/-- A first member that gives no parameter a value may be left out. -/
theorem of_tail {key : Text} {value : Json} (once : GivenOnce kind ((key, value) :: members))
    (idle : ∀ parameter ∈ recognized kind, parameter.IsKey key → value = .null) :
    GiveAlike kind ((key, value) :: members) members := by
  refine ⟨once, once.tail, fun parameter recognizes given => ?_⟩
  constructor
  · rintro ⟨notNull, used, own, member⟩
    rcases List.mem_cons.mp member with same | member
    · obtain ⟨rfl, rfl⟩ := Prod.mk.inj same
      exact absurd (idle parameter recognizes own) notNull
    · exact ⟨notNull, used, own, member⟩
  · rintro ⟨notNull, used, own, member⟩
    exact ⟨notNull, used, own, List.mem_cons_of_mem _ member⟩

/-- A first member may be given under another name of its parameter. -/
theorem of_rename {parameter : Parameter} {key other : Text} {value : Json}
    (once : GivenOnce kind ((key, value) :: members)) (recognizes : parameter ∈ recognized kind)
    (own : parameter.IsKey key) (ownToo : parameter.IsKey other) :
    GiveAlike kind ((key, value) :: members) ((other, value) :: members) := by
  refine ⟨once, once.rename recognizes own ownToo, fun second recognizesToo given => ?_⟩
  have renames {key other : Text} (own : parameter.IsKey key) (ownToo : parameter.IsKey other) :
      Gives ((key, value) :: members) second given →
        Gives ((other, value) :: members) second given := by
    rintro ⟨notNull, used, ownUsed, member⟩
    rcases List.mem_cons.mp member with same | member
    · obtain ⟨rfl, rfl⟩ := Prod.mk.inj same
      obtain rfl := eq_of_isKey recognizes recognizesToo own ownUsed
      exact ⟨notNull, other, ownToo, List.mem_cons_self⟩
    · exact ⟨notNull, used, ownUsed, List.mem_cons_of_mem _ member⟩
  exact ⟨renames own ownToo, renames ownToo own⟩

/-- A document in other words gives the same values. -/
theorem of_reworded (once : GivenOnce kind members) (reworded : Reworded kind members others) :
    GiveAlike kind members others := by
  -- The member that is changed is brought to the front, and what is left put back in its place.
  cases reworded with
  | moved same => exact of_perm once same
  | ignored earlier later value unrecognized =>
    have front := of_perm once List.perm_middle
    exact front.trans (of_tail front.onceToo fun parameter recognizes own =>
      absurd own (unrecognized parameter recognizes))
  | null earlier later notType =>
    have front := of_perm once List.perm_middle
    exact front.trans (of_tail front.onceToo fun _ _ _ => rfl)
  | renamed earlier later value recognizes own ownToo =>
    have front := of_perm once List.perm_middle
    have renamed := of_rename front.onceToo recognizes own ownToo
    exact front.trans (renamed.trans (of_perm renamed.onceToo List.perm_middle.symm))

/-- Documents that lead to each other by rewording give the same values. -/
theorem of_run (once : GivenOnce kind members)
    (run : Relation.ReflTransGen (Reworded kind) members others) :
    GiveAlike kind members others := by
  induction run with
  | refl => exact refl once
  | tail _ step ih => exact ih.trans (of_reworded ih.onceToo step)

end GiveAlike

/-! ## Readings -/

/-- Two problems differ at most in the name of the parameter under which they are. -/
inductive Respelled (kind : Kind) : Problem → Problem → Prop
  | intro {parameter : Parameter} {key other : Text} (recognizes : parameter ∈ recognized kind)
    (own : parameter.IsKey key) (ownToo : parameter.IsKey other) (problem : Problem) :
    Respelled kind (problem.under (.member key)) (problem.under (.member other))

section Reading

variable {α : Type} {kind : Kind} {members others : Entries Json} {parameter : Parameter}

/-- A parameter that is given no value takes its default. -/
theorem read_eq_default {default : α} {accept : Json → Checked α}
    (none : ¬∃ value, Gives members parameter value) :
    parameter.read members default (nullMeansDefault default accept) = .accepted default := by
  rw [Parameter.read]
  cases found : parameter.find? members with
  | none => rfl
  | some given =>
    obtain ⟨key, value⟩ := given
    obtain ⟨own, member⟩ := Parameter.isKey_of_find? found
    have null : value = .null := by
      by_contra notNull
      exact none ⟨value, notNull, key, own, member⟩
    rw [null]
    rfl

/-- A parameter is read from the member that gives it. -/
theorem read_of_gives {default : α} {accept : Json → Checked α} {key : Text} {value : Json}
    (once : GivenOnce kind members) (recognizes : parameter ∈ recognized kind)
    (own : parameter.IsKey key) (member : (key, value) ∈ members) :
    parameter.read members default accept = (accept value).under (.member key) := by
  rw [Parameter.read, once.find?_of_mem recognizes own member]

/-- A parameter is read alike from documents that give the same values. -/
theorem alike_read {default : α} {accept : Json → Checked α}
    (alike : GiveAlike kind members others) (recognizes : parameter ∈ recognized kind) :
    Checked.Alike (Respelled kind)
      (parameter.read members default (nullMeansDefault default accept))
      (parameter.read others default (nullMeansDefault default accept)) := by
  have same := alike.same parameter recognizes
  by_cases given : ∃ value, Gives members parameter value
  · obtain ⟨value, gives⟩ := given
    obtain ⟨_, other, ownToo, memberToo⟩ := (same value).mp gives
    obtain ⟨_, key, own, member⟩ := gives
    rw [read_of_gives alike.once recognizes own member,
      read_of_gives alike.onceToo recognizes ownToo memberToo]
    exact .under (fun problem => .intro recognizes own ownToo problem) _
  · have givenToo : ¬∃ value, Gives others parameter value := by
      rwa [← exists_congr same]
    rw [read_eq_default given, read_eq_default givenToo]
    exact .accepted default

/-- A text parameter is read alike from members that give alike. -/
theorem alike_readText (alike : GiveAlike kind members others)
    (recognizes : parameter ∈ recognized kind) :
    Checked.Alike (Respelled kind) (parameter.read members none acceptOptionalText)
      (parameter.read others none acceptOptionalText) := by
  rw [← Wire.nullMeansDefault_acceptOptionalText]
  exact alike_read alike recognizes

/-- An integer parameter is read alike from members that give alike. -/
theorem alike_readInteger (parameter : Parameter) (default : Int)
    (alike : GiveAlike kind members others) (recognizes : parameter ∈ recognized kind) :
    Checked.Alike (Respelled kind) (readInteger parameter members default)
      (readInteger parameter others default) :=
  alike_read alike recognizes

/-- The parameters of a kind are read alike from members that give alike. -/
theorem alike_readPredicate (alike : GiveAlike kind members others) :
    Checked.Alike (Respelled kind) (readPredicate kind members) (readPredicate kind others) := by
  cases kind with
  | fuzzy =>
    have value : Checked.Alike (Respelled .fuzzy) (readValue members) (readValue others) :=
      alike_readText alike (by decide)
    have maxEdits := alike_readInteger maxEditsParameter defaultFuzzy.maxEdits alike (by decide)
    have prefixLength :=
      alike_readInteger prefixLengthParameter defaultFuzzy.prefixLength alike (by decide)
    have maxExpansions :=
      alike_readInteger maxExpansionsParameter defaultFuzzy.maxExpansions alike (by decide)
    refine ((((value.map.seq maxEdits).seq prefixLength).seq maxExpansions).seq ?_).map
    exact alike_read alike (by decide)
  | regexp => exact (alike_readText alike (by decide)).map
  | phrase =>
    have values : Checked.Alike (Respelled .phrase)
        (valuesParameter.read members defaultPhrase.values acceptOptionalTexts)
        (valuesParameter.read others defaultPhrase.values acceptOptionalTexts) := by
      rw [← Wire.nullMeansDefault_acceptOptionalTexts]
      exact alike_read alike (by decide)
    exact (values.map.seq (alike_readInteger _ _ alike (by decide))).map

/-- Documents that give the same values are read alike. -/
theorem alike_readOfKind (alike : GiveAlike kind members others) :
    Checked.Alike (Respelled kind) (readOfKind kind members) (readOfKind kind others) := by
  have boost : Checked.Alike (Respelled kind) (readBoost members) (readBoost others) :=
    alike_read alike (by cases kind <;> decide)
  have field : Checked.Alike (Respelled kind) (readField members) (readField others) :=
    (alike_readText alike (by cases kind <;> decide)).map
  exact (boost.map.seq field).seq (alike_readPredicate alike)

end Reading

/-! ## Documents -/

/-- Documents that give the same values name one kind. -/
theorem documentKind_of_giveAlike {kind : Kind} {members others : Entries Json}
    (alike : GiveAlike kind members others) (tagged : documentKind members = .ok kind) :
    documentKind others = .ok kind := by
  obtain ⟨tag, read, named⟩ := bind_eq_ok_iff.mp tagged
  obtain ⟨given, found, notEmpty, lowered⟩ := documentTag_eq_ok_iff.mp read
  have recognizes : typeParameter ∈ recognized kind := List.mem_cons_self
  have gives : Gives members typeParameter (.str given) :=
    ⟨nofun, _, .inl rfl, Entries.mem_of_find? found⟩
  obtain ⟨_, key, own, member⟩ := (alike.same _ recognizes _).mp gives
  have spelled : key = typeParameter.spelling := own.elim id id
  have foundToo := Entries.find?_of_mem alike.onceToo.distinct (spelled ▸ member)
  exact bind_eq_ok_iff.mpr
    ⟨tag, documentTag_eq_ok_iff.mpr ⟨given, foundToo, notEmpty, lowered⟩, named⟩

/-- A condition that is read twice is the same, unless a text gives a boost that is not a number. -/
theorem same_inReading {condition : Condition}
    (number : ∀ payload, condition.boost ≠ .nan (payload + 1)) (first second : Nat) :
    (condition.inReading first).same (condition.inReading second) = true := by
  have own (reading : Nat) : condition.inReading reading = condition := by
    unfold inReading
    split
    next payload notNumber => exact absurd notNumber (number payload)
    next => rfl
  rw [own, own]
  simp [same, Binary64.same]

/-- **A document in other words says the same.** A document with a known type tag that gives no
parameter twice, and a document that it leads to by leaving out members that are no parameters of
its kind, leaving out null and changing the names of parameters, in any number and order, describe
conditions that agree in every parameter, and that are the same unless a text gives a boost that is
not a number. Or both are refused, for the same problems at the same places up to the names under
which the parameters are given. -/
theorem ofDocument_reworded {kind : Kind} {members others : Entries Json}
    (tagged : documentKind members = .ok kind) (once : GivenOnce kind members)
    (run : Relation.ReflTransGen (Reworded kind) members others) :
    (∃ condition, ofDocument (.obj members) = .ok condition ∧
      ofDocument (.obj others) = .ok condition ∧
      ((∀ payload, condition.boost ≠ .nan (payload + 1)) → ∀ first second,
        (condition.inReading first).same (condition.inReading second) = true)) ∨
    ∃ problems further, ofDocument (.obj members) = .error (invalid kind problems) ∧
      ofDocument (.obj others) = .error (invalid kind further) ∧
      List.Forall₂ (Respelled kind) problems further := by
  have alike := GiveAlike.of_run once run
  have taggedToo := documentKind_of_giveAlike alike tagged
  have read := alike_readOfKind alike
  generalize first : readOfKind kind members = reading at read
  generalize second : readOfKind kind others = another at read
  cases read with
  | accepted condition =>
    exact .inl ⟨condition, ofDocument_eq_ok_iff.mpr ⟨_, kind, rfl, tagged, first⟩,
      ofDocument_eq_ok_iff.mpr ⟨_, kind, rfl, taggedToo, second⟩, same_inReading⟩
  | rejected each =>
    exact .inr ⟨_, _, (ofDocument_eq_error_iff tagged).mpr ⟨_, first, rfl⟩,
      (ofDocument_eq_error_iff taggedToo).mpr ⟨_, second, rfl⟩, each⟩

/-- A fuzzy condition keeps its meaning without a member that only phrases have and without a boost
that is null, the greatest distance being given under the name of the parameter. -/
theorem ofDocument_reworded_fuzzy :
    ofDocument (.obj [("type", .str "Fuzzy"), ("max_edits", .int 1), ("value", .str "jon")]) =
      .ok ⟨.one, none, .fuzzy ⟨some "jon", 1, 0, 50, true⟩⟩ := by
  have tagged : (documentKind [("type", .str "Fuzzy"), ("slop", .int 3), ("maxEdits", .int 1),
      ("boost", .null), ("value", .str "jon")]).toOption = some .fuzzy := by
    decide +kernel
  have read : (ofDocument (.obj [("type", .str "Fuzzy"), ("slop", .int 3), ("maxEdits", .int 1),
      ("boost", .null), ("value", .str "jon")])).toOption =
        some ⟨.one, none, .fuzzy ⟨some "jon", 1, 0, 50, true⟩⟩ := by
    decide +kernel
  have once : GivenOnce .fuzzy [("type", .str "Fuzzy"), ("slop", .int 3), ("maxEdits", .int 1),
      ("boost", .null), ("value", .str "jon")] :=
    ⟨by decide, by decide⟩
  have run : Relation.ReflTransGen (Reworded .fuzzy)
      [("type", .str "Fuzzy"), ("slop", .int 3), ("maxEdits", .int 1), ("boost", .null),
        ("value", .str "jon")]
      [("type", .str "Fuzzy"), ("max_edits", .int 1), ("value", .str "jon")] := by
    refine .head (.ignored [_] _ _ (by decide)) (.head (.null [_, _] _ (by decide)) ?_)
    exact .single (.renamed [_] _ _ (by decide : maxEditsParameter ∈ recognized .fuzzy)
      (.inl rfl) (.inr rfl))
  rcases ofDocument_reworded (ok_of_toOption tagged) once run with
    ⟨condition, first, second, _⟩ | ⟨problems, _, refused, _⟩
  · cases (ok_of_toOption read).symm.trans first
    exact second
  · cases (ok_of_toOption read).symm.trans refused

/-- Without a member that is no parameter, a boost that a text gives and that is not a number makes
another condition. -/
theorem not_same_of_reworded_nan :
    documentKind [("type", .str "regexp"), ("boost", .str "nan"), ("slop", .int 1)] =
      .ok .regexp ∧
    GivenOnce .regexp [("type", .str "regexp"), ("boost", .str "nan"), ("slop", .int 1)] ∧
    Reworded .regexp [("type", .str "regexp"), ("boost", .str "nan"), ("slop", .int 1)]
      [("type", .str "regexp"), ("boost", .str "nan")] ∧
    ∃ first second,
      ofDocument (.obj [("type", .str "regexp"), ("boost", .str "nan"), ("slop", .int 1)]) =
        .ok first ∧
      ofDocument (.obj [("type", .str "regexp"), ("boost", .str "nan")]) = .ok second ∧
      ¬(first.inReading 0).same (second.inReading 1) = true := by
  have tagged : (documentKind [("type", .str "regexp"), ("boost", .str "nan"),
      ("slop", .int 1)]).toOption = some .regexp := by
    decide +kernel
  have first : (ofDocument (.obj [("type", .str "regexp"), ("boost", .str "nan"),
      ("slop", .int 1)])).toOption = some ⟨.nan 1, none, .regexp none⟩ := by
    decide +kernel
  have second : (ofDocument (.obj [("type", .str "regexp"), ("boost", .str "nan")])).toOption =
      some ⟨.nan 1, none, .regexp none⟩ := by
    decide +kernel
  exact ⟨ok_of_toOption tagged, ⟨by decide, by decide⟩, .ignored [_, _] [] _ (by decide), _, _,
    ok_of_toOption first, ok_of_toOption second, by decide⟩

end Condition

end FieldSearch
