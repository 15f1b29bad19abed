import Mathlib.Algebra.Group.Int.Defs
import Mathlib.Algebra.Group.Nat.Defs
import Mathlib.Data.List.Basic
import DialogueScript.Settings.Client

/-!
# The shape of client settings

Client settings are two records, one in the other, and each may be given as an object or as an array. `Json.IsSettings`
says which values are settings, part by part and without reading anything, and `Json.sentCap?` is the cap that such a
value holds.

* A value can be read exactly when it has the shape, and what is read stands in it: `readCap_eq_ok_iff`,
  `readSection_eq_ok_iff`, `ofJson_eq_ok_iff`, from the inner record to the outer.
* What an object holds under other names is never looked at (`ofJson_onlySection`), and the two names of the section may
  be exchanged (`ofJson_swapNames`).
-/

namespace DialogueScript

/-! ## Shapes -/

namespace Json

/-- A cap is null or an integer of 64 bits with sign. -/
def IsCap : Json → Prop
  | .null => True
  | .integer n => -2 ^ 63 ≤ n ∧ n ≤ 2 ^ 63 - 1
  | _ => False

/-- A section is null, an object whose cap is one if it is there, or an array that holds a cap and nothing else. -/
def IsSection : Json → Prop
  | .null => True
  | .object members => ∀ v ∈ lookup? "maxNumberOfProblems" members, v.IsCap
  | .array [v] => v.IsCap
  | _ => False

/-- Settings are null, an object that does not hold both names and under either of them holds a section if anything, or
an array that holds a section at most. -/
def IsSettings : Json → Prop
  | .null => True
  | .object members =>
    ¬ ((lookup? "tdls" members).isSome ∧ (lookup? "languageServerExample" members).isSome) ∧
      (∀ v ∈ lookup? "tdls" members, v.IsSection) ∧ ∀ v ∈ lookup? "languageServerExample" members, v.IsSection
  | .array [] => True
  | .array [v] => v.IsSection
  | _ => False

instance : DecidablePred IsCap
  | .null => .isTrue trivial
  | .integer _ => inferInstanceAs (Decidable (_ ∧ _))
  | .bool _ | .real _ | .string _ | .array _ | .object _ => .isFalse id

instance : DecidablePred IsSection
  | .null => .isTrue trivial
  | .object members => inferInstanceAs (Decidable (∀ v ∈ lookup? "maxNumberOfProblems" members, v.IsCap))
  | .array [v] => inferInstanceAs (Decidable v.IsCap)
  | .array [] | .array (_ :: _ :: _) | .bool _ | .integer _ | .real _ | .string _ => .isFalse id

instance : DecidablePred IsSettings
  | .null | .array [] => .isTrue trivial
  | .object _ => inferInstanceAs (Decidable (_ ∧ _))
  | .array [v] => inferInstanceAs (Decidable v.IsSection)
  | .array (_ :: _ :: _) | .bool _ | .integer _ | .real _ | .string _ => .isFalse id

/-- The integer that a value is. -/
def integer? : Json → Option Int
  | .integer n => some n
  | _ => none

/-- What stands for the cap in a section. -/
def capIn? : Json → Option Json
  | .object members => lookup? "maxNumberOfProblems" members
  | .array items => items.head?
  | _ => none

/-- What stands for the section in settings. -/
def sectionIn? : Json → Option Json
  | .object members => (lookup? "tdls" members).or (lookup? "languageServerExample" members)
  | .array items => items.head?
  | _ => none

/-- The integer that stands for the cap in settings. -/
def sentCap? (v : Json) : Option Int := (v.sectionIn?.bind capIn?).bind integer?

end Json

/-- The section that a value stands for: null is none. -/
def ClientSection.ofShape? : Json → Option ClientSection
  | .null => none
  | v => some ⟨v.capIn?.bind Json.integer?⟩

/-! ## Readers accept shapes -/

section Readers

variable {v w : Json}

theorem readCap_integer (n : Int) : readCap (.integer n) =
    if -2 ^ 63 ≤ n ∧ n ≤ 2 ^ 63 - 1 then .ok (some n) else .error (.outOfRange n) := by
  have hpow : Int.pow 2 63 = 2 ^ 63 := rfl
  have hrange : (decide (-Int.pow 2 63 ≤ n) && decide (n < Int.pow 2 63)) = true ↔
      -2 ^ 63 ≤ n ∧ n ≤ 2 ^ 63 - 1 := by
    rw [Bool.and_eq_true, decide_eq_true_eq, decide_eq_true_eq, hpow]
    omega
  simp only [readCap, hrange]

theorem readCap_eq_ok_iff {cap : Option Int} : readCap v = .ok cap ↔ v.IsCap ∧ cap = v.integer? := by
  cases v with
  | integer n =>
    rw [readCap_integer]
    by_cases hn : -2 ^ 63 ≤ n ∧ n ≤ 2 ^ 63 - 1
    · rw [if_pos hn, Except.ok.injEq]
      exact ⟨fun h => ⟨hn, h.symm⟩, fun h => h.2.symm⟩
    · rw [if_neg hn]
      exact ⟨nofun, fun h => absurd h.1 hn⟩
  | _ => simp [readCap, Json.IsCap, Json.integer?, eq_comm]

section Steps

variable {α β : Type} {x : Except ClientError α}

/-- What is read and then put into a record can be read if it can be read alone. -/
theorem map_eq_ok_iff {f : α → β} {b : β} : f <$> x = .ok b ↔ ∃ a, x = .ok a ∧ b = f a := by
  cases x <;> simp [Functor.map, Except.map, eq_comm]

/-- What is refused after a part of it has been read cannot be read, whatever comes of the part. -/
theorem bind_throw_ne_ok {e : ClientError} {b : β} : (x >>= fun _ => throw e) ≠ .ok b := by
  cases x <;> simp [bind, Except.bind, throw, throwThe, MonadExceptOf.throw]

end Steps

theorem readSection_eq_ok_iff {part : Option ClientSection} :
    readSection v = .ok part ↔ v.IsSection ∧ part = ClientSection.ofShape? v := by
  cases v with
  | object members =>
    cases hcap : Json.lookup? "maxNumberOfProblems" members <;>
      simp [readSection, map_eq_ok_iff, readCap_eq_ok_iff, Json.IsCap, Json.integer?, Json.IsSection,
        ClientSection.ofShape?, Json.capIn?, hcap]
  | array items =>
    rcases items with _ | ⟨w, _ | ⟨w', rest⟩⟩
    · simp [readSection, Json.IsSection]
    · simp [readSection, map_eq_ok_iff, readCap_eq_ok_iff, Json.IsSection, ClientSection.ofShape?, Json.capIn?]
    · simp [readSection, bind_throw_ne_ok, Json.IsSection]
  | _ => simp [readSection, Json.IsSection, ClientSection.ofShape?, eq_comm]

/-- **Settings can be read exactly when they have the shape**, and the section that is read is the one in them. -/
theorem ofJson_eq_ok_iff {s : ClientSettings} :
    ClientSettings.ofJson v = .ok s ↔ v.IsSettings ∧ s = ⟨v.sectionIn?.bind ClientSection.ofShape?⟩ := by
  cases v with
  | object members =>
    cases hlegacy : Json.lookup? "languageServerExample" members <;>
      cases hname : Json.lookup? "tdls" members <;>
      simp only [ClientSettings.ofJson, Json.IsSettings, Json.sectionIn?, hlegacy, hname]
    case none.none => simp [eq_comm]
    case none.some | some.none => simp [map_eq_ok_iff, readSection_eq_ok_iff]
    case some.some => simp [bind_throw_ne_ok]
  | array items =>
    rcases items with _ | ⟨w, _ | ⟨w', rest⟩⟩
    · simp [ClientSettings.ofJson, Json.IsSettings, Json.sectionIn?, eq_comm]
    · simp [ClientSettings.ofJson, map_eq_ok_iff, readSection_eq_ok_iff, Json.IsSettings, Json.sectionIn?]
    · simp [ClientSettings.ofJson, bind_throw_ne_ok, Json.IsSettings]
  | _ => simp [ClientSettings.ofJson, Json.IsSettings, Json.sectionIn?, eq_comm]

end Readers

/-! ## The cap that is sent -/

section Caps

variable {v w : Json} {n : Int}

theorem Json.IsSettings.isSection (h : v.IsSettings) (hw : v.sectionIn? = some w) : w.IsSection := by
  cases v with
  | object members =>
    obtain ⟨-, hname, hlegacy⟩ := h
    rcases Option.or_eq_some_iff.1 hw with hw | ⟨-, hw⟩
    · exact hname w hw
    · exact hlegacy w hw
  | array items =>
    rcases items with _ | ⟨w', _ | ⟨w'', rest⟩⟩
    · cases hw
    · cases hw
      exact h
    · cases h
  | _ => cases hw

theorem Json.IsSection.isCap (h : v.IsSection) (hw : v.capIn? = some w) : w.IsCap := by
  cases v with
  | object members => exact h w hw
  | array items =>
    rcases items with _ | ⟨w', _ | ⟨w'', rest⟩⟩
    · cases hw
    · cases hw
      exact h
    · cases h
  | _ => cases hw

/-- The cap that settings hold is an integer of 64 bits with sign. -/
theorem Json.IsSettings.sentCap?_le (h : v.IsSettings) (hn : v.sentCap? = some n) : n ≤ 2 ^ 63 - 1 := by
  simp only [Json.sentCap?, Option.bind_eq_some_iff] at hn
  obtain ⟨cap, ⟨part, hpart, hcap⟩, hinteger⟩ := hn
  have hrange := (h.isSection hpart).isCap hcap
  cases cap with
  | integer m =>
    cases hinteger
    exact hrange.2
  | _ => cases hinteger

/-- The cap of settings is the positive integer that was sent. -/
theorem cap?_ofShape (v : Json) (n : Nat) :
    (ClientSettings.mk (v.sectionIn?.bind ClientSection.ofShape?)).cap? = some n ↔
      v.sentCap? = some (n : Int) ∧ 1 ≤ n := by
  have hsent : (v.sectionIn?.bind ClientSection.ofShape?).bind ClientSection.maxNumberOfProblems = v.sentCap? := by
    unfold Json.sentCap?
    cases v.sectionIn? with
    | none => rfl
    | some part => cases part <;> rfl
  rw [← hsent]
  match v.sectionIn?.bind ClientSection.ofShape? with
  | none => simp [ClientSettings.cap?]
  | some ⟨none⟩ => simp [ClientSettings.cap?]
  | some ⟨some m⟩ =>
    simp only [ClientSettings.cap?, Option.ite_none_right_eq_some, Option.some.injEq, Option.bind_some]
    omega

end Caps

/-! ## Names -/

namespace Json

/-- The other one of the two names of the section. -/
def otherName (name : String) : String :=
  if name = "tdls" then "languageServerExample" else if name = "languageServerExample" then "tdls" else name

/-- Settings with the two names of the section exchanged. -/
def swapNames : Json → Json
  | .object members => .object (members.map fun m => (otherName m.1, m.2))
  | v => v

/-- A section without the members of other names than the cap's. -/
def onlyCap : Json → Json
  | .object members => .object (members.filter fun m => m.1 == "maxNumberOfProblems")
  | v => v

/-- Settings without the members of other names than those of section and cap. -/
def onlySection : Json → Json
  | .object members =>
    .object ((members.filter fun m => m.1 == "tdls" || m.1 == "languageServerExample").map fun m => (m.1, m.2.onlyCap))
  | .array items => .array (items.map onlyCap)
  | v => v

section Lookup

variable (members : List (String × Json)) (name : String)

/-- Members of other names do not matter. -/
theorem lookup?_filter (keep : String → Bool) (h : keep name = true) :
    lookup? name (members.filter fun m => keep m.1) = lookup? name members := by
  have htest : (fun m : String × Json => decide (keep m.1 = true ∧ (m.1 == name) = true)) = fun m => m.1 == name := by
    funext m
    by_cases hm : m.1 = name
    · simp [hm, h]
    · simp [hm]
  rw [lookup?, ← List.filter_reverse, List.find?_filter, htest, lookup?]

/-- Members under other names, if these do not clash, and with other values are found under their new names. -/
theorem lookup?_map {f : String → String} (hf : Function.Injective f) (g : Json → Json) :
    lookup? (f name) (members.map fun m => (f m.1, g m.2)) = (lookup? name members).map g := by
  have htest : ((fun m : String × Json => m.1 == f name) ∘ fun m : String × Json => (f m.1, g m.2)) =
      fun m => m.1 == name := by
    funext m
    simp [hf.eq_iff]
  rw [lookup?, ← List.map_reverse, List.find?_map, htest, lookup?, Option.map_map, Option.map_map]
  rfl

end Lookup

theorem otherName_involutive : Function.Involutive otherName := by
  intro name
  unfold otherName
  split_ifs <;> simp_all

end Json

section Names

variable {v : Json} {s : ClientSettings}

theorem readSection_onlyCap (v : Json) : readSection v.onlyCap = readSection v := by
  cases v with
  | object members =>
    have hlookup := Json.lookup?_filter members "maxNumberOfProblems" (· == "maxNumberOfProblems") (beq_self_eq_true _)
    simp only [Json.onlyCap, readSection, hlookup]
  | _ => rfl

/-- **Members of other names do not matter**, neither those of the settings nor those of their section. -/
theorem ofJson_onlySection (v : Json) : ClientSettings.ofJson v.onlySection = ClientSettings.ofJson v := by
  cases v with
  | object members =>
    have hlookup : ∀ name, (name == "tdls" || name == "languageServerExample") = true →
        Json.lookup? name ((members.filter fun m => m.1 == "tdls" || m.1 == "languageServerExample").map
          fun m => (m.1, m.2.onlyCap)) = (Json.lookup? name members).map Json.onlyCap := by
      intro name hname
      have hkept := Json.lookup?_filter members name (fun name => name == "tdls" || name == "languageServerExample")
        hname
      rw [← hkept]
      exact Json.lookup?_map _ name Function.injective_id Json.onlyCap
    simp only [Json.onlySection, ClientSettings.ofJson, hlookup "tdls" rfl, hlookup "languageServerExample" rfl]
    cases Json.lookup? "languageServerExample" members <;> cases Json.lookup? "tdls" members <;>
      simp only [Option.map_none, Option.map_some, readSection_onlyCap]
  | array items =>
    cases items with
    | nil => rfl
    | cons w rest =>
      simp only [Json.onlySection, List.map_cons, ClientSettings.ofJson, readSection_onlyCap, List.length_map,
        List.isEmpty_map]
  | _ => rfl

/-- **The two names of the section may be exchanged.** -/
theorem ofJson_swapNames (h : ClientSettings.ofJson v = .ok s) : ClientSettings.ofJson v.swapNames = .ok s := by
  cases v with
  | object members =>
    have hlookup : ∀ name, Json.lookup? (Json.otherName name) (members.map fun m => (Json.otherName m.1, m.2)) =
        Json.lookup? name members := by
      intro name
      have hmap := Json.lookup?_map members name Json.otherName_involutive.injective id
      rwa [Option.map_id_fun, id_eq] at hmap
    have hname : Json.lookup? "tdls" (members.map fun m => (Json.otherName m.1, m.2)) =
        Json.lookup? "languageServerExample" members := hlookup "languageServerExample"
    have hlegacy : Json.lookup? "languageServerExample" (members.map fun m => (Json.otherName m.1, m.2)) =
        Json.lookup? "tdls" members := hlookup "tdls"
    obtain ⟨⟨hboth, htdls, hold⟩, rfl⟩ := ofJson_eq_ok_iff.1 h
    refine ofJson_eq_ok_iff.2 ⟨⟨?_, ?_, ?_⟩, ?_⟩
    · rw [hname, hlegacy, and_comm]
      exact hboth
    · rw [hname]
      exact hold
    · rw [hlegacy]
      exact htdls
    · simp only [Json.sectionIn?, Json.swapNames, hname, hlegacy]
      -- only one of the two names is there, so it does not matter which is looked for first
      cases hfirst : Json.lookup? "tdls" members with
      | none => simp
      | some w =>
        cases hsecond : Json.lookup? "languageServerExample" members with
        | none => simp
        | some w' => exact absurd (by simp [hfirst, hsecond]) hboth
  | _ => exact h

end Names

/-- **Client settings are read by their shape.** A value can be read exactly when it has the shape of settings. The cap
that counts is then the integer in it, if there is one and it is positive; the two names of the section may be
exchanged, and members of other names may be dropped. -/
theorem settings_read_by_shape (v : Json) :
    ((∃ s, ClientSettings.ofJson v = .ok s) ↔ v.IsSettings) ∧
      (∀ s, ClientSettings.ofJson v = .ok s →
        (∀ n : Nat, s.cap? = some n ↔ v.sentCap? = some (n : Int) ∧ 1 ≤ n ∧ n ≤ 2 ^ 63 - 1) ∧
          ClientSettings.ofJson v.swapNames = .ok s) ∧
      ClientSettings.ofJson v.onlySection = ClientSettings.ofJson v := by
  refine ⟨⟨?_, ?_⟩, fun s hs => ⟨fun n => ?_, ofJson_swapNames hs⟩, ofJson_onlySection v⟩
  · rintro ⟨s, hs⟩
    exact (ofJson_eq_ok_iff.1 hs).1
  · intro hshape
    exact ⟨_, ofJson_eq_ok_iff.2 ⟨hshape, rfl⟩⟩
  · obtain ⟨hshape, rfl⟩ := ofJson_eq_ok_iff.1 hs
    rw [cap?_ofShape]
    constructor
    · rintro ⟨hsent, hpos⟩
      have hle := hshape.sentCap?_le hsent
      exact ⟨hsent, hpos, by omega⟩
    · rintro ⟨hsent, hpos, -⟩
      exact ⟨hsent, hpos⟩

-- an integer one too large, a section without its one element, and a section under both names
example : ¬ Json.IsSettings (.array [.array [.integer (2 ^ 63)]]) ∧ ¬ Json.IsSettings (.object [("tdls", .array [])]) ∧
    ¬ Json.IsSettings (.object [("tdls", .null), ("languageServerExample", .null)]) := by
  decide

/-- Settings by their legacy name, among members of other names; the section is given by position. -/
def legacySettings : Json :=
  .object [("tdls2", .bool true), ("languageServerExample", .array [.integer 7]), ("editor", .array [])]

theorem legacySettings_read_by_shape :
    ClientSettings.ofJson legacySettings = .ok ⟨some ⟨some 7⟩⟩ ∧ legacySettings.IsSettings ∧
      (ClientSettings.mk (some ⟨some 7⟩)).cap? = some 7 ∧ legacySettings.sentCap? = some 7 ∧
      ClientSettings.ofJson (.object [("tdls2", .bool true), ("tdls", .array [.integer 7]), ("editor", .array [])]) =
        .ok ⟨some ⟨some 7⟩⟩ ∧
      ClientSettings.ofJson (.object [("languageServerExample", .array [.integer 7])]) = .ok ⟨some ⟨some 7⟩⟩ := by
  have hread : ClientSettings.ofJson legacySettings = .ok ⟨some ⟨some 7⟩⟩ := rfl
  obtain ⟨hshape, hok, honly⟩ := settings_read_by_shape legacySettings
  obtain ⟨hcap, hswap⟩ := hok _ hread
  exact ⟨hread, hshape.1 ⟨_, hread⟩, (hcap 7).2 ⟨rfl, by decide, by decide⟩, rfl, hswap, honly.trans hread⟩

end DialogueScript
