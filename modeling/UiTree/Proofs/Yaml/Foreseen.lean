import UiTree.Yaml.Token

/-!
# Foreseen faults — how reading a text can fail

A text that breaks the format is malformed.  Any other fault comes from the conversion of a single
value, and is of one of a few kinds, or the stack is used up.  A reader that is made of readers with
foreseen faults has foreseen faults only.
-/

namespace UiTree.Yaml

open UiTree.Text

/-- The kinds of failure that the conversion of a value can end with. -/
def conversionKinds : List String :=
  ["ValueError", "OverflowError", "KeyError", "IndexError", "AttributeError"]

def Fault.Foreseen : Fault → Prop
  | .malformed | .exhausted => True
  | .conversion kind _ => kind ∈ conversionKinds

theorem Fault.foreseen_value (message : String) : (Fault.value message).Foreseen := by
  have hkind : "ValueError" ∈ conversionKinds := by decide
  exact hkind

theorem Fault.foreseen_conversion {kind : String} (h : kind ∈ conversionKinds) (message : String) :
    (Fault.conversion kind message).Foreseen := h

/-- Whatever fault the reading ends with is foreseen. -/
def Foresees {α : Type} (x : Except Fault α) : Prop := ∀ f, x = .error f → f.Foreseen

section

variable {α β : Type}

theorem foresees_ok (a : α) : Foresees (.ok a) := nofun

theorem foresees_error {f : Fault} (h : f.Foreseen) : Foresees (.error f : Except Fault α) := by
  rintro _ ⟨⟩
  exact h

theorem foresees_malformed : Foresees (.error .malformed : Except Fault α) :=
  foresees_error trivial

theorem foresees_value (message : String) : Foresees (.error (.value message) : Except Fault α) :=
  foresees_error (Fault.foreseen_value message)

theorem Foresees.bind {x : Except Fault α} {k : α → Except Fault β} (hx : Foresees x)
    (hk : ∀ a, Foresees (k a)) : Foresees (x >>= k) := by
  cases x with
  | ok a => exact hk a
  | error f => exact foresees_error (hx f rfl)

theorem Foresees.map {x : Except Fault α} (hx : Foresees x) (f : α → β) : Foresees (x.map f) := by
  cases x with
  | ok a => exact foresees_ok _
  | error f => exact foresees_error (hx f rfl)

theorem Foresees.ite {c : Prop} [Decidable c] {x y : Except Fault α} (hx : Foresees x)
    (hy : Foresees y) : Foresees (if c then x else y) := by
  split
  · exact hx
  · exact hy

end

/-! ## 1. Scalars -/

theorem foresees_quotedBreaks (room : Nat) (cs : List Char) : Foresees (quotedBreaks room cs) := by
  fun_induction quotedBreaks room cs with
  | case1 => exact foresees_ok _
  | case2 => exact foresees_malformed
  | case3 room cs _ cs' b rest _ ih => exact ih.bind fun _ => foresees_ok _
  | case4 => exact foresees_ok _

theorem foresees_quotedSpace (cs : List Char) : Foresees (quotedSpace cs) := by
  fun_cases quotedSpace cs with
  | case1 => exact foresees_malformed
  | case2 => exact (foresees_quotedBreaks _ _).bind fun _ => foresees_ok _
  | case3 => exact foresees_ok _

theorem foresees_codePoint (n : Nat) : Foresees (codePoint n) := by
  fun_cases codePoint n with
  | case1 => exact foresees_error (Fault.foreseen_conversion (by decide) _)
  | case2 => exact foresees_value _
  | case3 | case4 => exact foresees_ok _

theorem foresees_escaped (cs : List Char) : Foresees (escaped cs) := by
  fun_cases escaped cs with
  | case1 | case4 => exact foresees_malformed
  | case2 => exact foresees_ok _
  | case3 => exact (foresees_codePoint _).bind fun _ => foresees_ok _
  | case5 | case6 =>
    split
    · exact (foresees_quotedBreaks _ _).bind fun _ => foresees_ok _
    · exact foresees_malformed

theorem foresees_doubleQuoted (room : Nat) (cs : List Char) :
    Foresees (doubleQuoted room cs) := by
  fun_induction doubleQuoted room cs with
  | case1 | case2 => exact foresees_malformed
  | case3 => exact foresees_ok _
  | case4 room c cs _ join _ ih =>
    exact (foresees_escaped cs).bind fun _ => (ih _).bind fun _ => foresees_ok _
  | case5 room c cs _ join _ _ ih =>
    exact (foresees_quotedSpace _).bind fun _ => (ih _).bind fun _ => foresees_ok _
  | case6 room c cs _ join _ _ ih => exact (ih _).bind fun _ => foresees_ok _

theorem foresees_singleQuoted (room : Nat) (cs : List Char) :
    Foresees (singleQuoted room cs) := by
  fun_induction singleQuoted room cs with
  | case1 | case2 => exact foresees_malformed
  | case3 room cs ih => exact ih.bind fun _ => foresees_ok _
  | case4 => exact foresees_ok _
  | case5 room c cs _ _ join _ ih =>
    exact (foresees_quotedSpace _).bind fun _ => (ih _).bind fun _ => foresees_ok _
  | case6 room c cs _ _ join _ ih => exact (ih _).bind fun _ => foresees_ok _

theorem foresees_blockIndent? (cs : List Char) : Foresees (blockIndent? cs) := by
  fun_cases blockIndent? cs with
  | case2 => exact foresees_malformed
  | case1 | case3 | case4 => exact foresees_ok _

theorem foresees_blockHeader (cs : List Char) : Foresees (blockHeader cs) := by
  have hend : ∀ header : Chomping × Option Nat × List Char, Foresees (do
      if atBlank header.2.2 then return header else throw .malformed : Except Fault _) :=
    fun header => (foresees_ok _).ite foresees_malformed
  fun_cases blockHeader cs with
  | case1 => exact (foresees_blockIndent? _).bind fun _ => hend (_, _, _)
  | case2 =>
    refine (foresees_blockIndent? _).bind ?_
    rintro ⟨indent, rest⟩
    dsimp only
    split
    · exact hend (_, _, _)
    · exact hend (_, _, _)

theorem foresees_block (fold : Bool) (outer : Int) (cs : List Char) :
    Foresees (block fold outer cs) := by
  unfold block
  refine (foresees_blockHeader cs).bind ?_
  rintro ⟨chomping, explicit, rest⟩
  dsimp only
  split
  · exact (foresees_ok _).ite (foresees_ok _)
  · exact foresees_malformed

/-! ## 2. Tags, anchors and directives -/

theorem foresees_anchorName (cs : List Char) : Foresees (anchorName cs) :=
  foresees_malformed.ite (foresees_ok _)

theorem foresees_percentOctets (room : Nat) (cs : List Char) :
    Foresees (percentOctets room cs) := by
  fun_induction percentOctets room cs with
  | case1 | case4 => exact foresees_ok _
  | case2 room cs n rest _ ih => exact ih.bind fun _ => foresees_ok _
  | case3 => exact foresees_malformed

theorem foresees_tagChars (room : Nat) (cs : List Char) : Foresees (tagChars room cs) := by
  fun_induction tagChars room cs with
  | case1 | case2 | case5 => exact foresees_ok _
  | case3 room c cs _ ih =>
    refine (foresees_percentOctets _ _).bind ?_
    rintro ⟨octets, rest⟩
    dsimp only
    split
    · exact foresees_malformed
    · exact (ih _).bind fun _ => foresees_ok _
  | case4 room c cs _ _ ih => exact ih.bind fun _ => foresees_ok _

theorem foresees_tagBody (cs : List Char) : Foresees (tagBody cs) := by
  unfold tagBody
  refine (foresees_tagChars _ _).bind fun _ => ?_
  exact foresees_malformed.ite (foresees_ok _)

theorem foresees_tagHandle (cs : List Char) : Foresees (tagHandle cs) := by
  fun_cases tagHandle cs with
  | case1 | case2 => exact foresees_ok _
  | case3 | case4 => exact foresees_malformed

theorem foresees_tagName (cs : List Char) : Foresees (tagName cs) := by
  have hend : ∀ tag : TagName × List Char, Foresees (do
      if atBlank tag.2 then return tag else throw .malformed : Except Fault _) :=
    fun tag => (foresees_ok _).ite foresees_malformed
  fun_cases tagName cs with
  | case1 =>
    refine (foresees_tagBody _).bind ?_
    rintro ⟨suffix, rest⟩
    dsimp only
    split
    · exact hend (_, _)
    · exact foresees_malformed
  | case2 => exact hend (_, _)
  | case3 =>
    refine (foresees_tagHandle _).bind ?_
    rintro ⟨handle, rest⟩
    exact (foresees_tagBody rest).bind fun _ => hend (_, _)
  | case4 => exact (foresees_tagBody _).bind fun _ => hend (_, _)

theorem foresees_versionNumber (cs : List Char) : Foresees (versionNumber cs) :=
  foresees_malformed.ite ((foresees_value _).ite (foresees_ok _))

/-- A directive takes up the rest of its line. -/
theorem foresees_lineEnd (found : Directive × List Char) : Foresees (do
    let some rest := skipRestOfLine? found.2 | throw .malformed
    return (found.1, rest) : Except Fault _) := by
  split
  · exact foresees_ok _
  · exact foresees_malformed

theorem foresees_directive (cs : List Char) : Foresees (directive cs) := by
  fun_cases directive cs with
  | case1 => exact foresees_malformed
  | case2 =>
    refine Foresees.ite ?_ (Foresees.ite ?_ (foresees_lineEnd (_, _)))
    · refine (foresees_versionNumber _).bind ?_
      rintro ⟨major, rest⟩
      dsimp only
      split
      · exact (foresees_versionNumber _).bind fun _ =>
          foresees_malformed.ite (foresees_lineEnd (_, _))
      · exact foresees_malformed
    · refine (foresees_tagHandle _).bind fun _ => foresees_malformed.ite ?_
      exact (foresees_tagBody _).bind fun _ => foresees_malformed.ite (foresees_lineEnd (_, _))

/-! ## 3. Tokens -/

namespace Lexer

variable (s : Lexer)

theorem foresees_dropStale : Foresees s.dropStale := foresees_malformed.ite (foresees_ok _)

theorem foresees_dropPlace : Foresees s.dropPlace := foresees_malformed.ite (foresees_ok _)

theorem foresees_savePlace : Foresees s.savePlace := by
  refine Foresees.ite ?_ (foresees_ok _)
  exact s.foresees_dropPlace.bind fun _ => foresees_ok _

theorem foresees_finish : Foresees s.finish :=
  (foresees_dropPlace _).bind fun _ => foresees_ok _

theorem foresees_readDirective : Foresees s.readDirective := by
  refine (foresees_dropPlace _).bind fun _ => ?_
  exact (foresees_directive _).bind fun _ => foresees_ok _

theorem foresees_readSeparator (t : Token) : Foresees (s.readSeparator t) :=
  (foresees_dropPlace _).bind fun _ => foresees_ok _

theorem foresees_openFlow (t : Token) : Foresees (s.openFlow t) :=
  s.foresees_savePlace.bind fun _ => foresees_ok _

theorem foresees_closeFlow (t : Token) : Foresees (s.closeFlow t) :=
  s.foresees_dropPlace.bind fun _ => (foresees_ok _).ite foresees_malformed

theorem foresees_readFlowEntry : Foresees s.readFlowEntry :=
  (foresees_dropPlace _).bind fun _ => foresees_ok _

theorem foresees_openBlock (t : Token) : Foresees (s.openBlock t) := by
  refine (foresees_ok _).ite (foresees_malformed.ite ?_)
  cases s.deepen s.column with
  | some s => exact foresees_ok _
  | none => exact foresees_ok _

theorem foresees_readEntry : Foresees s.readEntry := by
  refine (s.foresees_openBlock _).bind fun _ => ?_
  exact (foresees_dropPlace _).bind fun _ => foresees_ok _

theorem foresees_readKey : Foresees s.readKey := by
  refine (s.foresees_openBlock _).bind fun _ => ?_
  exact (foresees_dropPlace _).bind fun _ => foresees_ok _

theorem foresees_readValue : Foresees s.readValue := by
  unfold readValue
  split
  · exact foresees_ok _
  · refine (s.foresees_openBlock _).bind fun _ => ?_
    exact (foresees_dropPlace _).bind fun _ => foresees_ok _

theorem foresees_readAnchor (make : String → Token) : Foresees (s.readAnchor make) := by
  refine s.foresees_savePlace.bind fun _ => ?_
  exact (foresees_anchorName _).bind fun _ => foresees_ok _

theorem foresees_readTag : Foresees s.readTag := by
  refine s.foresees_savePlace.bind fun _ => ?_
  exact (foresees_tagName _).bind fun _ => foresees_ok _

theorem foresees_readBlock (fold : Bool) : Foresees (s.readBlock fold) := by
  refine (foresees_dropPlace _).bind fun _ => ?_
  exact (foresees_block _ _ _).bind fun _ => foresees_ok _

theorem foresees_readQuoted {reader : Nat → List Char → Except Fault (Ragged × List Char)}
    (hreader : ∀ room cs, Foresees (reader room cs)) : Foresees (s.readQuoted reader) := by
  refine s.foresees_savePlace.bind fun _ => ?_
  exact (hreader _ _).bind fun _ => foresees_ok _

theorem foresees_readPlain : Foresees s.readPlain :=
  s.foresees_savePlace.bind fun _ => foresees_ok _

theorem foresees_read : Foresees s.read := by
  fun_cases read s with
  | case1 => exact s.foresees_finish
  | case2 => exact s.foresees_readDirective
  | case3 => exact s.foresees_readSeparator _
  | case4 | case5 => exact s.foresees_openFlow _
  | case6 | case7 => exact s.foresees_closeFlow _
  | case8 => exact s.foresees_readFlowEntry
  | case9 => exact s.foresees_readEntry
  | case10 => exact s.foresees_readKey
  | case11 => exact s.foresees_readValue
  | case12 | case13 => exact s.foresees_readAnchor _
  | case14 => exact s.foresees_readTag
  | case15 | case16 => exact s.foresees_readBlock _
  | case17 => exact s.foresees_readQuoted foresees_singleQuoted
  | case18 => exact s.foresees_readQuoted foresees_doubleQuoted
  | case19 => exact s.foresees_readPlain
  | case20 => exact foresees_malformed

/-- One token further. -/
theorem foresees_next : Foresees s.next := by
  refine (foresees_dropStale _).bind fun _ => ?_
  exact (foresees_read _).bind fun s => s.foresees_dropStale

/-- The fault that ends the tokens is that of one of them. -/
theorem foreseen_run (room : Nat) : ∀ f, (s.run room).2 = some f → f.Foreseen := by
  fun_induction run room s with
  | case1 | case2 => exact nofun
  | case3 room s _ s' _ ih => exact ih
  | case4 room s _ fault hnext =>
    rintro _ ⟨⟩
    exact s.foresees_next fault hnext

end Lexer

theorem foreseen_tokens {cs : List Char} {f : Fault} (h : (tokens cs).2 = some f) :
    f.Foreseen := by
  unfold tokens at h
  split at h
  · cases h
    trivial
  · exact Lexer.foreseen_run _ _ f h

end UiTree.Yaml
