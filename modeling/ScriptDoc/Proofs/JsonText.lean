import ScriptDoc.Json.Parser
import ScriptDoc.Json.Printer

-- Where a written value ends is seen from the value alone, so written data can be told apart.
namespace ScriptDoc.JsonText
open Json

theorem hexValue_hexDigit : ∀ n < 16, hexValue? (hexDigit n) = some n := by decide

theorem unit_control {c : Char} (small : c.toNat < 32) :
    unit? '0' '0' (hexDigit (c.toNat / 16)) (hexDigit (c.toNat % 16)) = some c.toNat := by
  have zero : hexValue? '0' = some 0 := by decide
  have high := hexValue_hexDigit (c.toNat / 16) (by omega)
  have low := hexValue_hexDigit (c.toNat % 16) (by omega)
  simp only [unit?,zero,high,low,Option.bind_eq_bind,Option.bind_some,Option.some.injEq]
  omega

theorem readString_control {c : Char} (small : c.toNat < 32) (rest : Text) :
    readString ('\\' :: 'u' :: '0' :: '0' :: hexDigit (c.toNat / 16) :: hexDigit (c.toNat % 16) :: rest)
      = (readString rest).map fun p => (c :: p.1, p.2) := by
  have noLow : isLowUnit c.toNat = false := by
    simp only [isLowUnit,Bool.and_eq_false_iff,decide_eq_false_iff_not]
    omega
  have noHigh : isHighUnit c.toNat = false := by
    simp only [isHighUnit,Bool.and_eq_false_iff,decide_eq_false_iff_not]
    omega
  rw [readString,unit_control small]
  simp [noLow,noHigh]

theorem readString_plain {c : Char} (quote : c ≠ '"') (slash : c ≠ '\\') (large : ¬ c.toNat < 32) (rest : Text) :
    readString (c :: rest) = (readString rest).map fun p => (c :: p.1, p.2) := by
  rw [readString]
  · rw [if_neg (by simp [slash,large])]
  · exact quote
  · exact fun _ _ _ _ _ same _ => slash same
  · exact fun _ _ same _ => slash same

theorem readString_named {e c : Char} (named : plainEscape? e = some c) (rest : Text) :
    readString ('\\' :: e :: rest) = (readString rest).map fun p => (c :: p.1, p.2) := by
  have other : e ≠ 'u' := by
    rintro rfl
    cases named
  rw [readString]
  · rw [named]
  · exact fun _ _ _ _ _ same _ => other same

-- A character is written by the name of its escape, by its number, or as it is.
theorem escapeChar_cases (c : Char) :
    (∃ e, plainEscape? e = some c ∧ escapeChar c = ['\\', e]) ∨
    (c.toNat < 32 ∧
      escapeChar c = ['\\', 'u', '0', '0', hexDigit (c.toNat / 16), hexDigit (c.toNat % 16)]) ∨
    (c ≠ '"' ∧ c ≠ '\\' ∧ ¬ c.toNat < 32 ∧ escapeChar c = [c]) := by
  by_cases named : c ∈ ['"', '\\', '\x08', '\x0c', '\n', '\r', '\t']
  · simp only [List.mem_cons,List.not_mem_nil,or_false] at named
    rcases named with rfl | rfl | rfl | rfl | rfl | rfl | rfl
    · exact .inl ⟨'"',rfl,rfl⟩
    · exact .inl ⟨'\\',rfl,rfl⟩
    · exact .inl ⟨'b',rfl,rfl⟩
    · exact .inl ⟨'f',rfl,rfl⟩
    · exact .inl ⟨'n',rfl,rfl⟩
    · exact .inl ⟨'r',rfl,rfl⟩
    · exact .inl ⟨'t',rfl,rfl⟩
  · simp only [List.mem_cons,List.not_mem_nil,or_false,not_or] at named
    obtain ⟨quote,slash,back,form,feed,ret,tab⟩ := named
    unfold escapeChar
    rw [if_neg quote,if_neg slash,if_neg back,if_neg form,if_neg feed,if_neg ret,if_neg tab]
    by_cases small : c.toNat < 32
    · exact .inr (.inl ⟨small,by rw [if_pos small]; rfl⟩)
    · exact .inr (.inr ⟨quote,slash,small,by rw [if_neg small]⟩)

theorem readString_escapeChar (c : Char) (rest : Text) :
    readString (escapeChar c ++ rest) = (readString rest).map fun p => (c :: p.1, p.2) := by
  rcases escapeChar_cases c with ⟨e,named,written⟩ | ⟨small,written⟩ | ⟨quote,slash,large,written⟩
  · rw [written]
    exact readString_named named rest
  · rw [written]
    exact readString_control small rest
  · rw [written]
    exact readString_plain quote slash large rest

theorem readString_written (t rest : Text) : readString (t.flatMap escapeChar ++ '"' :: rest) = some (t, rest) := by
  induction t with
  | nil => simp [readString]
  | cons c t ih => rw [List.flatMap_cons,List.append_assoc,readString_escapeChar,ih,Option.map_some]

theorem stringText_append (t rest : Text) : stringText t ++ rest = '"' :: (t.flatMap escapeChar ++ '"' :: rest) := by
  simp [stringText]

-- Whatever follows the two, it is seen where they end.
def Cut {α : Type} (write : α → Text) (a b : α) : Prop :=
  ∀ r s : Text, write a ++ r = write b ++ s → a = b ∧ r = s

theorem stringText_cut (t u : Text) : Cut stringText t u := by
  intro r s same
  rw [stringText_append,stringText_append] at same
  have read := congrArg readString (List.cons.inj same).2
  rw [readString_written,readString_written] at read
  cases Option.some.inj read
  exact ⟨rfl,rfl⟩

-- A list with a comma before each item and a line feed behind the last one.
theorem listed_cut {α : Type} {write : α → Text} {items others : List α}
    (each : ∀ a ∈ items, ∀ b ∈ others, Cut write a b) {r s : Text}
    (same : (items.flatMap fun a => ',' :: write a) ++ '\n' :: r
      = (others.flatMap fun b => ',' :: write b) ++ '\n' :: s) : items = others ∧ r = s := by
  induction items generalizing others with
  | nil =>
    cases others with
    | nil => exact ⟨rfl,(List.cons.inj same).2⟩
    | cons b others => cases (List.cons.inj same).1
  | cons a items ih =>
    cases others with
    | nil => cases (List.cons.inj same).1
    | cons b others =>
      simp only [List.flatMap_cons,List.cons_append,List.append_assoc,List.cons.injEq,true_and] at same
      obtain ⟨rfl,later⟩ := each a (by simp) b (by simp) _ _ same
      obtain ⟨rfl,after⟩ := ih (fun a member b among => each a (by simp [member]) b (by simp [among])) later
      exact ⟨rfl,after⟩

-- Data with texts in it and nothing else.
inductive Worded : Json → Prop where
  | null : Worded .null
  | string (t : Text) : Worded (.string t)
  | array {items : List Json} (each : ∀ v ∈ items, Worded v) : Worded (.array items)
  | object {members : List (Text × Json)} (each : ∀ m ∈ members, Worded m.2) : Worded (.object members)

-- Arrays and objects are laid out alike: a line for each item, and one for the bracket that closes.
def bracketed {α : Type} (opener closer : Char) (depth : Nat) (write : α → Text) : List α → Text
  | [] => [opener, closer]
  | a :: rest => opener :: (newline (depth + 1) ++ write a
      ++ (rest.flatMap fun b => ',' :: (newline (depth + 1) ++ write b)) ++ newline depth ++ [closer])

theorem indented_cut {α : Type} {write : α → Text} {a b : α} (cut : Cut write a b) (depth : Nat) :
    Cut (fun c => newline depth ++ write c) a b := by
  intro r s same
  rw [List.append_assoc,List.append_assoc] at same
  exact cut r s (List.append_cancel_left same)

theorem bracketed_cut {α : Type} {write : α → Text} {opener closer : Char} (closes : closer ≠ '\n')
    {items others : List α} (each : ∀ a ∈ items, ∀ b ∈ others, Cut write a b) (depth : Nat) :
    Cut (bracketed opener closer depth write) items others := by
  intro r s same
  cases items with
  | nil =>
    cases others with
    | nil => exact ⟨rfl,(List.cons.inj (List.cons.inj same).2).2⟩
    | cons b others => exact absurd (List.cons.inj (List.cons.inj same).2).1 closes
  | cons a items =>
    cases others with
    | nil => exact absurd (List.cons.inj (List.cons.inj same).2).1.symm closes
    | cons b others =>
      simp only [bracketed,List.cons_append,List.append_assoc,List.cons.injEq,true_and] at same
      obtain ⟨rfl,later⟩ := each a (by simp) b (by simp) _ _ (List.append_cancel_left same)
      have tails : ∀ c ∈ items, ∀ d ∈ others, Cut (fun e => newline (depth + 1) ++ write e) c d :=
        fun c member d among => indented_cut (each c (by simp [member]) d (by simp [among])) _
      obtain ⟨rfl,after⟩ := listed_cut tails later
      have ends := List.append_cancel_left after
      exact ⟨rfl,(List.cons.inj ends).2⟩

def memberText (depth : Nat) (m : Text × Json) : Text := stringText m.1 ++ (':' :: ' ' :: prettyAt depth m.2)

theorem memberText_cut {depth : Nat} {m n : Text × Json} (cut : Cut (prettyAt depth) m.2 n.2) :
    Cut (memberText depth) m n := by
  intro r s same
  simp only [memberText,List.append_assoc,List.cons_append] at same
  obtain ⟨names,behind⟩ := stringText_cut _ _ _ _ same
  simp only [List.cons.injEq,true_and] at behind
  obtain ⟨values,after⟩ := cut r s behind
  exact ⟨Prod.ext names values,after⟩

theorem prettyItems_cons (depth : Nat) (v : Json) (rest : List Json) :
    prettyItems depth (v :: rest)
      = newline depth ++ prettyAt depth v ++ rest.flatMap fun w => ',' :: (newline depth ++ prettyAt depth w) := by
  induction rest generalizing v with
  | nil => simp [prettyItems]
  | cons w rest ih =>
    rw [prettyItems,ih w]
    simp

theorem prettyMembers_cons (depth : Nat) (m : Text × Json) (rest : List (Text × Json)) :
    prettyMembers depth (m :: rest)
      = newline depth ++ memberText depth m ++ rest.flatMap fun n => ',' :: (newline depth ++ memberText depth n) := by
  induction rest generalizing m with
  | nil => simp [prettyMembers,memberText]
  | cons n rest ih =>
    rw [prettyMembers,ih n]
    simp [memberText]

theorem prettyAt_array (depth : Nat) (items : List Json) :
    prettyAt depth (.array items) = bracketed '[' ']' depth (prettyAt (depth + 1)) items := by
  cases items with
  | nil => rfl
  | cons v rest =>
    rw [prettyAt,prettyItems_cons]
    rfl

theorem prettyAt_object (depth : Nat) (members : List (Text × Json)) :
    prettyAt depth (.object members) = bracketed '\x7b' '\x7d' depth (memberText (depth + 1)) members := by
  cases members with
  | nil => rfl
  | cons m rest =>
    rw [prettyAt,prettyMembers_cons]
    rfl

def opening : Json → Option Char
  | .null => some 'n'
  | .string _ => some '"'
  | .array _ => some '['
  | .object _ => some '\x7b'
  | _ => none

theorem prettyAt_opening {v : Json} (worded : Worded v) (depth : Nat) (r : Text) :
    (prettyAt depth v ++ r).head? = opening v := by
  cases worded with
  | null => rfl
  | string t => rfl
  | @array items _ => cases items <;> rfl
  | @object members _ => cases members <;> rfl

theorem opening_agree {v w : Json} (one : Worded v) (other : Worded w) {depth : Nat} {r s : Text}
    (same : prettyAt depth v ++ r = prettyAt depth w ++ s) : opening v = opening w := by
  rw [← prettyAt_opening one depth r,same,prettyAt_opening other]

theorem prettyAt_cut {v : Json} (worded : Worded v) {w : Json} (other : Worded w) (depth : Nat) :
    Cut (prettyAt depth) v w := by
  induction worded generalizing w depth with
  | null =>
    intro r s same
    have kinds := opening_agree .null other same
    cases other <;> simp [opening] at kinds
    exact ⟨rfl,List.append_cancel_left same⟩
  | string t =>
    intro r s same
    have kinds := opening_agree (.string t) other same
    cases other <;> simp [opening] at kinds
    rename_i u
    obtain ⟨rfl,after⟩ := stringText_cut t u r s same
    exact ⟨rfl,after⟩
  | array each ih =>
    intro r s same
    have kinds := opening_agree (.array each) other same
    cases other <;> simp [opening] at kinds
    rename_i others words
    rw [prettyAt_array,prettyAt_array] at same
    obtain ⟨rfl,after⟩ :=
      bracketed_cut (by decide) (fun v member w among => ih v member (words w among) _) depth r s same
    exact ⟨rfl,after⟩
  | object each ih =>
    intro r s same
    have kinds := opening_agree (.object each) other same
    cases other <;> simp [opening] at kinds
    rename_i others words
    rw [prettyAt_object,prettyAt_object] at same
    obtain ⟨rfl,after⟩ := bracketed_cut (by decide)
      (fun m member n among => memberText_cut (ih m member (words n among) _)) depth r s same
    exact ⟨rfl,after⟩

end ScriptDoc.JsonText
