import UiTree.Proofs.Yaml.Foreseen
import UiTree.Yaml.Document

/-!
# Conversion — every fault of a document is foreseen

Nodes are read from tokens by recursive descent, and every reader keeps the fault that ends the
tokens.  The data of the nodes are then converted one by one, and the first conversion that fails
decides the fault.
-/

namespace UiTree.Yaml

open UiTree.Text

/-! ## 1. Nodes -/

namespace Node

variable {α β : Type}

/-- From tokens that end with a foreseen fault, the reader goes on to such tokens, or ends with a
foreseen fault itself. -/
def Reads (x : Reader α) : Prop :=
  ∀ p : Progress, p.ending.Foreseen →
    Foresees (x.run p) ∧ ∀ a q, x.run p = .ok (a, q) → q.ending.Foreseen

theorem reads_pure (a : α) : Reads (pure a) := by
  intro p hp
  refine ⟨foresees_ok _, ?_⟩
  rintro _ _ ⟨⟩
  exact hp

theorem reads_malformed : Reads (malformed : Reader α) :=
  fun _ _ => ⟨foresees_malformed, nofun⟩

theorem reads_get : Reads (get : Reader Progress) := by
  intro p hp
  refine ⟨foresees_ok _, ?_⟩
  rintro _ _ ⟨⟩
  exact hp

theorem reads_modify {f : Progress → Progress} (h : ∀ p, (f p).ending = p.ending) :
    Reads (modify f) := by
  intro p hp
  refine ⟨foresees_ok _, ?_⟩
  rintro _ _ ⟨⟩
  rw [h]
  exact hp

theorem Reads.bind {x : Reader α} {k : α → Reader β} (hx : Reads x) (hk : ∀ a, Reads (k a)) :
    Reads (x >>= k) := by
  intro p hp
  have hrun : (x >>= k).run p = x.run p >>= fun (a, q) => (k a).run q := rfl
  rcases hx p hp with ⟨hfaults, hends⟩
  rw [hrun]
  cases hxp : x.run p with
  | error f => exact ⟨foresees_error (hfaults f hxp), nofun⟩
  | ok r => exact hk r.1 r.2 (hends r.1 r.2 hxp)

theorem Reads.ite {c : Prop} [Decidable c] {x y : Reader α} (hx : Reads x) (hy : Reads y) :
    Reads (if c then x else y) := by
  split
  · exact hx
  · exact hy

theorem reads_peek : Reads peek := by
  rintro ⟨tokens, ending, handles, anchors, collections⟩ hending
  cases tokens with
  | nil => exact ⟨foresees_error hending, nofun⟩
  | cons t ts =>
    refine ⟨foresees_ok _, ?_⟩
    rintro _ _ ⟨⟩
    exact hending

theorem reads_advance : Reads advance := reads_modify fun _ => rfl

theorem reads_freshId : Reads freshId := by
  intro p hp
  refine ⟨foresees_ok _, ?_⟩
  rintro _ _ ⟨⟩
  exact hp

theorem reads_expand (name : TagName) : Reads (expand name) := by
  unfold expand
  split
  · exact reads_pure _
  · refine reads_get.bind fun p => ?_
    split
    · exact reads_get.bind fun _ => reads_pure _
    · exact reads_malformed

theorem reads_expandAll (name : Option TagName) : Reads (name.mapM expand) := by
  cases name with
  | none => exact reads_pure _
  | some name => exact (reads_expand name).bind fun _ => reads_pure _

theorem reads_properties : Reads properties := by
  unfold properties
  refine reads_peek.bind fun t => ?_
  split
  · refine reads_advance.bind fun _ => reads_peek.bind fun t => ?_
    split
    · exact reads_advance.bind fun _ => reads_pure _
    · exact reads_pure _
  · refine reads_advance.bind fun _ => reads_peek.bind fun t => ?_
    split
    · exact reads_advance.bind fun _ => reads_pure _
    · exact reads_pure _
  · exact reads_pure _

theorem reads_checkNew (anchor : Option String) : Reads (checkNew anchor) := by
  unfold checkNew
  split
  · exact reads_get.bind fun _ => reads_malformed.ite (reads_pure _)
  · exact reads_pure _

theorem reads_assign (anchor : Option String) (target : Target) : Reads (assign anchor target) := by
  unfold assign
  split
  · exact reads_modify fun _ => rfl
  · exact reads_pure _

theorem reads_collection (anchor : Option String) {read : Nat → Reader Node}
    (h : ∀ id, Reads (read id)) : Reads (collection anchor read) := by
  refine reads_freshId.bind fun id => (reads_assign _ _).bind fun _ => ?_
  refine (h id).bind fun node => (reads_assign _ _).bind fun _ => ?_
  exact reads_pure _

/-- What follows the mark between two entries is read after the mark, and there is none before the
first of them. -/
theorem reads_flowMark {first : Bool} {t : Token} {next : Reader β} (hnext : Reads next) :
    Reads (do
      if !first then
        match t with
        | .flowEntry => advance
        | _ => malformed
      next) := by
  refine Reads.ite ?_ hnext
  dsimp only
  split
  · exact reads_advance.bind fun _ => hnext
  · exact reads_malformed.bind fun _ => hnext

/-- With this much room, whatever is read of a value is read so. -/
structure AllRead (room : Nat) : Prop where
  read : ∀ block loose, Reads (read block loose room)
  blockItems : Reads (blockItems room)
  looseEntries : Reads (looseEntries room)
  blockEntries : Reads (blockEntries room)
  blockPart : Reads (blockPart room)
  flowItems : ∀ first, Reads (flowItems first room)
  flowEntries : ∀ first, Reads (flowEntries first room)

namespace AllRead

variable {room : Nat} (h : AllRead room)
include h

theorem reads_blockItems : Reads (Node.blockItems (room + 1)) := by
  rw [Node.blockItems]
  refine reads_peek.bind fun t => ?_
  split
  · refine reads_advance.bind fun _ => reads_peek.bind fun t => ?_
    have hjoin : ∀ item, Reads (do return item :: (← Node.blockItems room)) :=
      fun item => h.blockItems.bind fun _ => reads_pure _
    dsimp only
    split
    · exact hjoin _
    · exact hjoin _
    · exact (h.read _ _).bind hjoin
  · exact reads_advance.bind fun _ => reads_pure _
  · exact reads_malformed

theorem reads_looseEntries : Reads (Node.looseEntries (room + 1)) := by
  rw [Node.looseEntries]
  refine reads_peek.bind fun t => ?_
  split
  · refine reads_advance.bind fun _ => reads_peek.bind fun t => ?_
    have hjoin : ∀ item, Reads (do return item :: (← Node.looseEntries room)) :=
      fun item => h.looseEntries.bind fun _ => reads_pure _
    dsimp only
    split
    · exact hjoin _
    · exact hjoin _
    · exact hjoin _
    · exact hjoin _
    · exact (h.read _ _).bind hjoin
  · exact reads_pure _

theorem reads_blockEntries : Reads (Node.blockEntries (room + 1)) := by
  rw [Node.blockEntries]
  refine reads_peek.bind fun t => ?_
  split
  · refine reads_advance.bind fun _ => h.blockPart.bind fun key => reads_peek.bind fun t => ?_
    have hjoin : ∀ value, Reads (do return (key, value) :: (← Node.blockEntries room)) :=
      fun value => h.blockEntries.bind fun _ => reads_pure _
    dsimp only
    split
    · exact reads_advance.bind fun _ => h.blockPart.bind hjoin
    · exact hjoin _
  · exact reads_advance.bind fun _ => reads_pure _
  · exact reads_malformed

theorem reads_blockPart : Reads (Node.blockPart (room + 1)) := by
  rw [Node.blockPart]
  refine reads_peek.bind fun t => ?_
  split
  · exact reads_pure _
  · exact reads_pure _
  · exact reads_pure _
  · exact h.read _ _

/-- The value of a key in a flow sequence, and the rest of the sequence. -/
theorem reads_itemValue (id : Nat) (key : Node) : Reads (do
    let value ← match ← peek with
      | .value => do
        advance
        match ← peek with
        | .flowEntry | .flowSequenceEnd => pure empty
        | _ => Node.read false false room
      | _ => pure empty
    return .mapping id .mapping [(key, value)] :: (← Node.flowItems false room)) := by
  have hrest : ∀ value, Reads (do
      return .mapping id .mapping [(key, value)] :: (← Node.flowItems false room)) := fun _ =>
    (h.flowItems false).bind fun _ => reads_pure _
  refine reads_peek.bind fun t => ?_
  dsimp only
  split
  · refine reads_advance.bind fun _ => reads_peek.bind fun t => ?_
    split
    · exact hrest _
    · exact hrest _
    · exact (h.read _ _).bind hrest
  · exact hrest _

theorem reads_flowItems (first : Bool) : Reads (Node.flowItems first (room + 1)) := by
  rw [Node.flowItems]
  refine reads_peek.bind fun t => ?_
  split
  · exact reads_advance.bind fun _ => reads_pure _
  · refine reads_flowMark (reads_peek.bind fun t => ?_)
    split
    · exact reads_advance.bind fun _ => reads_pure _
    · refine reads_advance.bind fun _ => reads_freshId.bind fun id => reads_peek.bind fun t => ?_
      dsimp only
      split
      · exact h.reads_itemValue id _
      · exact h.reads_itemValue id _
      · exact h.reads_itemValue id _
      · exact (h.read _ _).bind (h.reads_itemValue id)
    · refine (h.read _ _).bind fun _ => ?_
      exact (h.flowItems false).bind fun _ => reads_pure _

/-- The value of a key in a flow mapping, and the rest of the mapping. -/
theorem reads_entryValue (key : Node) : Reads (do
    let value ← match ← peek with
      | .value => do
        advance
        match ← peek with
        | .flowEntry | .flowMappingEnd => pure empty
        | _ => Node.read false false room
      | _ => pure empty
    return (key, value) :: (← Node.flowEntries false room)) := by
  have hrest : ∀ value, Reads (do return (key, value) :: (← Node.flowEntries false room)) :=
    fun _ => (h.flowEntries false).bind fun _ => reads_pure _
  refine reads_peek.bind fun t => ?_
  dsimp only
  split
  · refine reads_advance.bind fun _ => reads_peek.bind fun t => ?_
    split
    · exact hrest _
    · exact hrest _
    · exact (h.read _ _).bind hrest
  · exact hrest _

theorem reads_flowEntries (first : Bool) : Reads (Node.flowEntries first (room + 1)) := by
  rw [Node.flowEntries]
  refine reads_peek.bind fun t => ?_
  split
  · exact reads_advance.bind fun _ => reads_pure _
  · refine reads_flowMark (reads_peek.bind fun t => ?_)
    split
    · exact reads_advance.bind fun _ => reads_pure _
    · refine reads_advance.bind fun _ => reads_peek.bind fun t => ?_
      dsimp only
      split
      · exact h.reads_entryValue _
      · exact h.reads_entryValue _
      · exact h.reads_entryValue _
      · exact (h.read _ _).bind h.reads_entryValue
    · refine (h.read _ _).bind fun _ => ?_
      exact (h.flowEntries false).bind fun _ => reads_pure _

theorem reads_read (block loose : Bool) : Reads (Node.read block loose (room + 1)) := by
  rw [Node.read]
  refine reads_peek.bind fun t => ?_
  split
  · refine reads_advance.bind fun _ => reads_get.bind fun p => ?_
    split
    · exact reads_pure _
    · exact reads_pure _
    · exact reads_malformed
  · refine reads_properties.bind ?_
    rintro ⟨anchor, tagName⟩
    refine (reads_expandAll tagName).bind fun tag => reads_peek.bind fun t => ?_
    have hcollection : ∀ read : Nat → Reader Node, (∀ id, Reads (read id)) →
        Reads (do checkNew anchor; collection anchor read) :=
      fun read hread => (reads_checkNew anchor).bind fun _ => reads_collection anchor hread
    have hscalar : ∀ node : Node, Reads (do
        checkNew anchor
        assign anchor (.done node)
        return node) :=
      fun node => (reads_checkNew anchor).bind fun _ =>
        (reads_assign anchor _).bind fun _ => reads_pure _
    split
    · exact hcollection _ fun id => h.looseEntries.bind fun _ => reads_pure _
    · exact reads_advance.bind fun _ => hscalar _
    · exact reads_advance.bind fun _ =>
        hcollection _ fun id => (h.flowItems true).bind fun _ => reads_pure _
    · exact reads_advance.bind fun _ =>
        hcollection _ fun id => (h.flowEntries true).bind fun _ => reads_pure _
    · exact reads_advance.bind fun _ =>
        hcollection _ fun id => h.blockItems.bind fun _ => reads_pure _
    · exact reads_advance.bind fun _ =>
        hcollection _ fun id => h.blockEntries.bind fun _ => reads_pure _
    · exact (reads_malformed.bind fun _ => hscalar _).ite (hscalar _)

end AllRead

theorem allRead (room : Nat) : AllRead room := by
  -- the readers call each other with less room only, so that one induction serves them all
  induction room with
  | zero =>
    refine ⟨fun _ _ => ?_, ?_, ?_, ?_, ?_, fun _ => ?_, fun _ => ?_⟩
    all_goals exact reads_malformed
  | succ room ih =>
    exact ⟨ih.reads_read, ih.reads_blockItems, ih.reads_looseEntries, ih.reads_blockEntries,
      ih.reads_blockPart, ih.reads_flowItems, ih.reads_flowEntries⟩

theorem reads_directives (versioned : Bool) (handles : List (String × String)) (room : Nat) :
    Reads (directives versioned handles room) := by
  induction room generalizing versioned handles with
  | zero => exact reads_malformed
  | succ room ih =>
    rw [directives]
    refine reads_peek.bind fun t => ?_
    split
    · exact reads_advance.bind fun _ => (reads_malformed.bind fun _ => ih _ _).ite (ih _ _)
    · exact reads_advance.bind fun _ => (reads_malformed.bind fun _ => ih _ _).ite (ih _ _)
    · exact reads_advance.bind fun _ => ih _ _
    · exact reads_modify fun _ => rfl

theorem reads_onlyEnds (room : Nat) : Reads (onlyEnds room) := by
  induction room with
  | zero => exact reads_malformed
  | succ room ih =>
    rw [onlyEnds]
    refine reads_peek.bind fun t => ?_
    split
    · exact reads_advance.bind fun _ => ih
    · exact reads_pure _
    · exact reads_malformed

/-- The value of a document, and the marks of its end. -/
theorem reads_documentNode (room : Nat) : Reads (do
    let node ← match ← peek with
      | .directive _ | .documentStart | .documentEnd | .finish => pure empty
      | _ => Node.read true false room
    onlyEnds room
    return some node) := by
  have hend : ∀ node : Node, Reads (do onlyEnds room; return some node) :=
    fun _ => (reads_onlyEnds room).bind fun _ => reads_pure _
  refine reads_peek.bind fun t => ?_
  dsimp only
  split
  · exact hend _
  · exact hend _
  · exact hend _
  · exact hend _
  · exact ((allRead room).read true false).bind hend

theorem reads_document (room : Nat) : Reads (document room) := by
  unfold document
  refine reads_peek.bind fun t => ?_
  split
  · exact reads_pure _
  · refine (reads_directives false [] room).bind fun _ => reads_peek.bind fun t => ?_
    dsimp only
    split
    · exact reads_advance.bind fun _ => reads_documentNode room
    · exact reads_malformed.bind fun _ => reads_documentNode room
  · refine (reads_directives false [] room).bind fun _ => reads_peek.bind fun t => ?_
    dsimp only
    split
    · exact reads_advance.bind fun _ => reads_documentNode room
    · exact reads_malformed.bind fun _ => reads_documentNode room
  · refine ((allRead room).read true false).bind fun _ => ?_
    exact (reads_onlyEnds room).bind fun _ => reads_pure _

theorem foresees_ofChars (cs : List Char) : Foresees (ofChars cs) := by
  have hending : ((tokens cs).2.getD .malformed).Foreseen := by
    cases hfault : (tokens cs).2 with
    | none => trivial
    | some f => exact foreseen_tokens hfault
  exact ((reads_document _) _ hending).1.map Prod.fst

end Node

/-! ## 2. Values -/

theorem Foresees.mapM {α β : Type} {f : α → Except Fault β} (hf : ∀ a, Foresees (f a))
    (as : List α) : Foresees (as.mapM f) := by
  induction as with
  | nil => exact foresees_ok _
  | cons a as ih =>
    rw [List.mapM_cons]
    exact (hf a).bind fun _ => ih.bind fun _ => foresees_ok _

namespace Timestamp

theorem foresees_checkDate (year month day : Nat) : Foresees (checkDate year month day) :=
  (foresees_value _).ite ((foresees_value _).ite ((foresees_value _).ite (foresees_ok _)))

theorem foresees_checkTime (hour minute second : Nat) : Foresees (checkTime hour minute second) :=
  (foresees_value _).ite ((foresees_value _).ite ((foresees_value _).ite (foresees_ok _)))

theorem foresees_zoneLiteral (zone : Option (Char × List Char × List Char)) :
    Foresees (zoneLiteral zone) := by
  fun_cases zoneLiteral zone with
  | case1 | case3 | case4 => exact foresees_ok _
  | case2 => exact foresees_value _

theorem foresees_literal (t : Timestamp) : Foresees t.literal := by
  -- the calendar is checked only once the zone is there
  have hchecked : ∀ (year month day hour minute second : Nat) (shown : String), Foresees do
      checkDate year month day
      checkTime hour minute second
      return shown :=
    fun _ _ _ _ _ _ _ => (foresees_checkDate _ _ _).bind fun _ =>
      (foresees_checkTime _ _ _).bind fun _ => foresees_ok _
  unfold literal
  dsimp only
  split
  · exact (foresees_checkDate _ _ _).bind fun _ => foresees_ok _
  · split
    · exact hchecked _ _ _ _ _ _ _
    · exact ((foresees_zoneLiteral _).map some).bind fun _ => hchecked _ _ _ _ _ _ _

end Timestamp

namespace Scalar

theorem foreseen_noCharacter : noCharacter.Foreseen := Fault.foreseen_conversion (by decide) _

theorem foresees_truth (t : Ragged) : Foresees (truth t) := by
  unfold truth
  split
  case h_7 => exact foresees_error (Fault.foreseen_conversion (by decide) _)
  all_goals exact foresees_ok _

theorem foresees_integer (base : Nat) (points : List Point) : Foresees (integer base points) := by
  fun_cases integer base points with
  | case1 => exact foresees_value _
  | case2 => exact foresees_ok _
  | case3 => exact Yaml.foresees_value _

theorem foresees_signAndRest (points : List Point) : Foresees (signAndRest points) := by
  fun_cases signAndRest points with
  | case1 => exact foresees_error foreseen_noCharacter
  | case2 | case3 | case4 => exact foresees_ok _

theorem foresees_magnitude (points : List Point) : Foresees (magnitude points) := by
  have hparts : Foresees (if points.contains (.char ':') then
      ((splitAt (.char ':') points).mapM (integer 10)).map sexagesimal else integer 10 points) :=
    Foresees.ite ((Foresees.mapM (foresees_integer 10) _).map _) (foresees_integer 10 points)
  fun_cases magnitude points with
  | case1 => exact foresees_error foreseen_noCharacter
  | case2 => exact foresees_ok _
  | case3 | case4 | case5 => exact foresees_integer _ _
  | case6 | case7 => exact hparts

theorem foresees_whole (t : Ragged) : Foresees (whole t) :=
  (foresees_signAndRest _).bind fun _ => (foresees_magnitude _).bind fun _ => foresees_ok _

theorem foresees_decimal (points : List Point) : Foresees (decimal points) := by
  fun_cases decimal points with
  | case1 => exact foresees_ok _
  | case2 => exact Yaml.foresees_value _

theorem foresees_real (t : Ragged) : Foresees (real t) := by
  refine (foresees_signAndRest _).bind fun _ => ?_
  have hend : ∀ (negative : Bool) (x : Number.Binary64), Foresees (do
      return .real (if negative then .mul (.withSign true .one) x else x) : Except Fault Datum) :=
    fun _ _ => foresees_ok _
  refine Foresees.ite (hend _ _) (Foresees.ite (hend _ _) (Foresees.ite ?_ ?_))
  · exact ((Foresees.mapM foresees_decimal _).map _).bind (hend _)
  · exact (foresees_decimal _).bind (hend _)

theorem foresees_octets (t : Ragged) : Foresees (octets t) := by
  fun_cases octets t with
  | case1 => exact foresees_ok _
  | case2 | case3 => exact foresees_malformed

theorem foresees_moment (t : Ragged) : Foresees (moment t) := by
  fun_cases moment t with
  | case1 => exact (Timestamp.foresees_literal _).map _
  | case2 => exact foresees_error (Fault.foreseen_conversion (by decide) _)

theorem foresees_value (kind : Kind) (t : Ragged) : Foresees (value kind t) := by
  fun_cases value kind t with
  | case1 | case7 => exact foresees_ok _
  | case2 => exact foresees_truth t
  | case3 => exact foresees_whole t
  | case4 => exact foresees_real t
  | case5 => exact foresees_moment t
  | case6 => exact foresees_octets t
  | case8 => exact foresees_malformed

end Scalar

/-! ## 3. Documents -/

namespace Node

/-- A mapping has a stand-in, or what is wrong with it is foreseen. -/
theorem foresees_standIn (root : Node) (room : Nat) (n : Node) :
    Foresees (standIn root room n) := by
  fun_induction standIn root room n with
  | case1 => exact foresees_ok _
  | case2 => exact foresees_error trivial
  | case3 room _ _ entries key v _ ih => exact ih
  | case4 | case5 => exact foresees_malformed

/-- The fault that was found, if there is one, is foreseen. -/
def Finding.Foreseen (f : Finding) : Prop := ∀ depth fault, f = some (depth, fault) → fault.Foreseen

theorem foreseen_earlier {a b : Finding} (ha : Finding.Foreseen a) (hb : Finding.Foreseen b) :
    Finding.Foreseen (earlier a b) := by
  fun_cases earlier a b with
  | case1 => exact hb
  | case2 => exact ha
  | case3 => exact hb
  | case4 => exact ha

theorem foreseen_malformed (depth : Nat) : Finding.Foreseen (some (depth, .malformed)) := by
  rintro _ _ ⟨⟩
  trivial

/-- A finding that a loop carries along stays foreseen if every step keeps it so. -/
theorem foreseen_foldl {σ γ : Type} (found : σ → Finding) {step : σ → γ → σ}
    (hstep : ∀ s x, Finding.Foreseen (found s) → Finding.Foreseen (found (step s x)))
    (xs : List γ) {s : σ} (hs : Finding.Foreseen (found s)) :
    Finding.Foreseen (found (xs.foldl step s)) := by
  induction xs generalizing s with
  | nil => exact hs
  | cons x xs ih => exact ih (hstep s x hs)

/-- A value is converted, or the fault of its conversion is found. -/
theorem foreseen_scalar (kind : Kind) (text : Ragged) (depth : Nat) :
    Finding.Foreseen (match Scalar.value kind text with
      | .ok d => (d, none)
      | .error f => (Datum.null, some (depth, f)) : Datum × Finding).2 := by
  cases hvalue : Scalar.value kind text with
  | ok d => exact nofun
  | error f =>
    rintro _ _ ⟨⟩
    exact Scalar.foresees_value kind text f hvalue

section

variable {root : Node} {room : Nat}
  (hpart : ∀ inside depth n, Finding.Foreseen (convert root room inside depth n).2)
include hpart

/-- The items of a sequence. -/
theorem foreseen_items (inside : List Nat) (depth : Nat) (items : List Node) :
    Finding.Foreseen ((items.map (convert root room inside depth)).foldl
      (fun f p => earlier f p.2) none) := by
  rw [List.foldl_map]
  apply foreseen_foldl fun f : Finding => f
  · exact fun f n hf => foreseen_earlier hf (hpart _ _ _)
  · exact nofun

/-- The items of a sequence that are mappings of one entry. -/
theorem foreseen_pairs (inside : List Nat) (depth : Nat) (items : List Node) :
    Finding.Foreseen ((items.map fun n => match root.single? n with
      | some (k, v) =>
        let (k, f) := convert root room inside depth k
        let (v, g) := convert root room inside depth v
        (Datum.pair k v, earlier f g)
      | none => (.null, some (depth, .malformed))).foldl (fun f p => earlier f p.2) none) := by
  rw [List.foldl_map]
  apply foreseen_foldl fun f : Finding => f
  · intro f n hf
    apply foreseen_earlier hf
    cases root.single? n with
    | none => exact foreseen_malformed _
    | some entry => exact foreseen_earlier (hpart _ _ _) (hpart _ _ _)
  · exact nofun

/-- The entries of a mapping, unless something that is no mapping is merged into it. -/
theorem foreseen_entries (inside : List Nat) (depth : Nat)
    (entries : Option (List (Node × Node))) :
    Finding.Foreseen (match entries with
      | none => ([], some (depth, Fault.malformed))
      | some entries => entries.foldl (fun (found, f) (k, v) =>
        let (k, g) := convert root room inside depth k
        let g := if k.isKey then g else earlier g (some (depth, .malformed))
        let (v, h) := convert root room inside depth v
        (Datum.insertEntry k v found, earlier (earlier f g) h)) ([], none)).2 := by
  cases entries with
  | none => exact foreseen_malformed _
  | some entries =>
    apply foreseen_foldl Prod.snd
    · intro s entry hs
      refine foreseen_earlier (foreseen_earlier hs ?_) (hpart _ _ _)
      split
      · exact hpart _ _ _
      · exact foreseen_earlier (hpart _ _ _) (foreseen_malformed _)
    · exact nofun

end

theorem foreseen_convert (root : Node) (room : Nat) (inside : List Nat) (depth : Nat) (n : Node) :
    Finding.Foreseen (convert root room inside depth n).2 := by
  -- parts are converted with less room, one level deeper, and inside one collection more
  induction room generalizing inside depth n with
  | zero => exact nofun
  | succ room ih =>
    unfold convert
    dsimp only
    cases n with
    | again id => exact nofun
    | scalar kind text =>
      dsimp only
      split
      · exact foreseen_scalar kind text depth
      · split <;> exact foreseen_malformed _
    | sequence id kind items =>
      dsimp only
      split
      · exact nofun
      · split
        · exact foreseen_items ih _ _ items
        · exact foreseen_pairs ih _ _ items
        · exact foreseen_pairs ih _ _ items
        all_goals exact foreseen_malformed _
    | mapping id kind entries =>
      dsimp only
      split
      · exact nofun
      · split
        · exact foreseen_entries ih _ _ _
        · exact foreseen_entries ih _ _ _
        case h_9 =>
          split
          · exact foreseen_scalar _ _ depth
          · rename_i f hfault
            rintro _ _ ⟨⟩
            exact foresees_standIn root _ _ f hfault
        all_goals exact foreseen_malformed _

theorem foresees_datum (root : Node) : Foresees root.datum := by
  unfold datum
  split
  · exact foresees_ok _
  · rename_i depth f hfound
    refine foresees_error (foreseen_convert root (root.collections + 1) [] 0 root depth f ?_)
    rw [hfound]

end Node

/-- **Every fault of a document is foreseen.**  A text is read as data, or it is malformed, or one
of its values could not be converted, or it uses up the stack. -/
theorem foresees_read (loader : Loader) (text : String) : Foresees (read loader text) := by
  have hexhausted : Foresees (.error .exhausted : Except Fault Datum) := foresees_error trivial
  unfold read
  split
  · exact hexhausted
  · apply (Node.foresees_ofChars text.toList).bind
    intro root
    cases root with
    | none => exact foresees_ok _
    | some root => exact root.foresees_datum

end UiTree.Yaml
