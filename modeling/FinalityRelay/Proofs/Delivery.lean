import FinalityRelay.Proofs.Lines
import FinalityRelay.Proofs.WireTexts

/-! What a feed yields. Each line stands for itself as long as all before it are texts, and a document of
notifications, blank lines and other text is told apart line by line. -/

namespace FinalityRelay

namespace Feed

/-- The text of a line without the blanks around it, if it is a text. -/
def text? (bs : List UInt8) : Option (List Char) :=
  (String.fromUTF8? ⟨bs.toArray⟩).map fun s => Text.trim s.toList

def isText (bs : List UInt8) : Bool := (text? bs).isSome

/-- The notification that a line holds. -/
def held? (bs : List UInt8) : Option Notification :=
  (text? bs).bind fun cs => Notification.codec.parse? (String.ofList cs)

/-- The report on a line with the given number: something stands on it that is no notification. -/
def complaint? (bs : List UInt8) (number : Nat) : Option Event :=
  if (text? bs).any (· ≠ []) ∧ held? bs = none then some (.skippedLine number) else none

variable {number : Nat} {l : List UInt8} {ls : List (List UInt8)}

theorem parse?_nil : Notification.codec.parse? (String.ofList []) = none := by rfl

theorem Line.ofText_eq (s : String) : Line.ofText s =
    if Text.trim s.toList = [] then .blank
    else match Notification.codec.parse? (String.ofList (Text.trim s.toList)) with
      | some x => .notification x
      | none => .malformed := by
  rw [Line.ofText, Codec.parse?, String.toList_ofList]
  cases Text.trim s.toList <;> rfl

theorem ofLines_of_isText (h : isText l = true) : ofLines number (l :: ls) =
    ⟨(held? l).toList ++ (ofLines (number + 1) ls).notifications,
      (complaint? l number).toList ++ (ofLines (number + 1) ls).events⟩ := by
  obtain ⟨_, htext⟩ := Option.isSome_iff_exists.mp h
  obtain ⟨s, hs, rfl⟩ := Option.map_eq_some_iff.mp htext
  rw [ofLines, hs]
  simp only [Line.ofText_eq, complaint?, held?, htext, Option.bind_some, Option.any_some]
  by_cases hblank : Text.trim s.toList = []
  · rw [hblank, parse?_nil]
    simp
  · cases hparse : Notification.codec.parse? (String.ofList (Text.trim s.toList)) <;> simp [hblank]

theorem ofLines_of_not_isText (h : isText l = false) :
    ofLines number (l :: ls) = ⟨[], [.unreadable]⟩ := by
  have hs : String.fromUTF8? ⟨l.toArray⟩ = none := by
    rwa [isText, text?, Option.isSome_map, Option.isSome_eq_false_iff, Option.isNone_iff_eq_none] at h
  rw [ofLines, hs]

theorem notifications_ofLines (number : Nat) (ls : List (List UInt8)) :
    (ofLines number ls).notifications = (ls.takeWhile isText).filterMap held? := by
  induction ls generalizing number with
  | nil => rfl
  | cons l ls ih =>
    cases h : isText l with
    | true =>
      rw [ofLines_of_isText h, List.takeWhile_cons_of_pos h, List.filterMap_cons, ih]
      cases held? l <;> rfl
    | false => rw [ofLines_of_not_isText h, List.takeWhile_cons_of_neg (by simp [h])]; rfl

theorem events_ofLines (number : Nat) (ls : List (List UInt8)) :
    (ofLines number ls).events =
      ((ls.takeWhile isText).zipIdx number).filterMap (fun p => complaint? p.1 p.2) ++
        if ls.all isText then [] else [.unreadable] := by
  induction ls generalizing number with
  | nil => rfl
  | cons l ls ih =>
    cases h : isText l with
    | true =>
      rw [ofLines_of_isText h, List.takeWhile_cons_of_pos h, List.zipIdx_cons, List.filterMap_cons, ih,
        List.all_cons, h, Bool.true_and]
      cases complaint? l number <;> rfl
    | false =>
      rw [ofLines_of_not_isText h, List.takeWhile_cons_of_neg (by simp [h]), List.all_cons, h]
      rfl

/-! ### Notifications on a line -/

theorem exists_print_eq (x : Notification) :
    ∃ cs, (Notification.codec.print x).toList = '{' :: (cs ++ ['}']) := by
  obtain ⟨ms, hms⟩ : ∃ ms, Notification.codec.toJson x = .object ms := by
    cases x <;> exact ⟨_, rfl⟩
  exact ⟨Json.writeMembers ms, by rw [Codec.print, Json.toList_render, hms]; rfl⟩

theorem newline_not_mem_print (x : Notification) : '\n' ∉ (Notification.codec.print x).toList := by
  intro hmem
  rw [Codec.print, Json.toList_render] at hmem
  have hvisible := (Notification.codec_renders.plain x 6 (le_refl 6)).visible
  exact absurd (hvisible _ hmem) (by decide)

theorem trim_print (x : Notification) {before after : List Char}
    (hb : ∀ c ∈ before, Text.isBlank c = true) (ha : ∀ c ∈ after, Text.isBlank c = true) :
    Text.trim (before ++ (Notification.codec.print x).toList ++ after) =
      (Notification.codec.print x).toList := by
  obtain ⟨cs, hcs⟩ := exists_print_eq x
  rw [Text.trim_append_right ha, Text.trim_append_left hb, hcs]
  exact Text.trim_of_ends (by decide) (by decide)

theorem text?_bytes (cs : List Char) : text? (Text.bytes cs) = some (Text.trim cs) := by
  rw [text?, Text.fromUTF8?_bytes, Option.map_some, String.toList_ofList]

theorem held?_bytes (cs : List Char) :
    held? (Text.bytes cs) = Notification.codec.parse? (String.ofList (Text.trim cs)) := by
  rw [held?, text?_bytes, Option.bind_some]

theorem held?_print {x : Notification} (hx : x.Consistent) :
    held? (Text.bytes (Notification.codec.print x).toList) = some x := by
  have htrim := trim_print x (List.forall_mem_nil _) (List.forall_mem_nil _)
  rw [List.nil_append, List.append_nil] at htrim
  rw [held?_bytes, htrim, String.ofList_toList]
  exact Notification.codec_renders.parse?_print (by decide) hx

/-- A feed yields what its lines hold up to the first that is no text, and so all that they hold if and
only if nothing stands behind that line. -/
theorem ofContent_upto_unreadable (bs : List UInt8) :
    (ofContent (some bs)).notifications = ((lines bs).takeWhile isText).filterMap held? ∧
      (ofContent (some bs)).events =
        (((lines bs).takeWhile isText).zipIdx 1).filterMap (fun p => complaint? p.1 p.2) ++
          (if (lines bs).all isText then [] else [.unreadable]) ∧
      ((ofContent (some bs)).notifications = (lines bs).filterMap held? ↔
        ∀ l ∈ (lines bs).dropWhile isText, held? l = none) := by
  have hread := notifications_ofLines 1 (lines bs)
  have hsplit : (lines bs).filterMap held? = ((lines bs).takeWhile isText).filterMap held? ++
      ((lines bs).dropWhile isText).filterMap held? := by
    rw [← List.filterMap_append, List.takeWhile_append_dropWhile]
  refine ⟨hread, events_ofLines 1 (lines bs), ?_⟩
  rw [ofContent, hread, hsplit, List.self_eq_append_right, List.filterMap_eq_nil_iff]

end Feed

namespace Sample

/-- A transaction that did nothing. -/
def idle : Transaction := ⟨.zero, [], []⟩

/-- It is told behind a line that is no text. -/
def broken : List UInt8 :=
  0xFF :: 10 :: Text.bytes (Notification.codec.print (.applied idle)).toList

end Sample

namespace Feed

theorem broken_yields_nothing : (ofContent (some Sample.broken)).notifications = [] ∧
    (lines Sample.broken).filterMap held? = [.applied Sample.idle] := by
  have hprinted := newline_not_mem_print (.applied Sample.idle)
  have hlines : lines Sample.broken =
      [[0xFF], Text.bytes (Notification.codec.print (.applied Sample.idle)).toList] := by
    have hrest := lines_of_newline_not_mem (Text.newline_not_mem_bytes hprinted)
    obtain ⟨cs, hcs⟩ := exists_print_eq (.applied Sample.idle)
    rw [if_neg (by simp [hcs])] at hrest
    have hfirst : (10 : UInt8) ∉ [0xFF] := by decide
    exact (lines_append_newline hfirst _).trans (by rw [hrest])
  have hbad : isText [0xFF] = false := by decide
  have hgood : held? (Text.bytes (Notification.codec.print (.applied Sample.idle)).toList) =
      some (.applied Sample.idle) := held?_print (x := .applied _) trivial
  rw [ofContent, hlines, ofLines_of_not_isText hbad]
  refine ⟨rfl, ?_⟩
  have hnone : held? [0xFF] = none := by decide
  rw [List.filterMap_cons_none hnone, List.filterMap_cons_some hgood, List.filterMap_nil]

/-! ### Documents -/

/-- Blanks within a line. -/
abbrev Blanks := { cs : List Char // ∀ c ∈ cs, Text.isBlank c = true ∧ c ≠ '\n' }

/-- A line with something on it that is no notification. -/
structure Junk where
  text : List Char
  onLine : '\n' ∉ text
  shown : ∃ c ∈ text, Text.isBlank c = false
  refused : Notification.codec.parse? (String.ofList (Text.trim text)) = none

inductive Entry
  | notification (x : { x : Notification // x.Consistent }) (before after : Blanks)
  | blank (cs : Blanks)
  | junk (j : Junk)

inductive Ending
  | lineFeed
  | returnAndLineFeed

/-- Lines, each with its end, and maybe one more without. -/
structure Document where
  ended : List (Entry × Ending)
  unended : Option Entry

namespace Entry

def text : Entry → List Char
  | notification x before after => before.1 ++ (Notification.codec.print x.1).toList ++ after.1
  | blank cs => cs.1
  | junk j => j.text

def notification? : Entry → Option Notification
  | notification x _ _ => some x.1
  | _ => none

def isJunk : Entry → Bool
  | junk _ => true
  | _ => false

/-- The report on an entry that stands on the line with the given number. -/
def warning? (e : Entry) (number : Nat) : Option Event :=
  if e.isJunk then some (.skippedLine number) else none

end Entry

/-- What belongs to the line in front of the line feed. -/
def Ending.kept : Ending → List Char
  | lineFeed => []
  | returnAndLineFeed => ['\r']

theorem Ending.mem_kept {e : Ending} {c : Char} (h : c ∈ e.kept) : c = '\r' := by
  cases e with
  | lineFeed => cases h
  | returnAndLineFeed => exact List.mem_singleton.mp h

namespace Document

def text (d : Document) : List Char :=
  d.ended.flatMap (fun p => p.1.text ++ (p.2.kept ++ ['\n'])) ++ (d.unended.map Entry.text).getD []

def entries (d : Document) : List Entry := d.ended.map Prod.fst ++ d.unended.toList

end Document

namespace Entry

theorem newline_not_mem (e : Entry) : '\n' ∉ e.text := by
  cases e with
  | notification x before after =>
    simp only [text, List.mem_append, not_or]
    refine ⟨⟨?_, newline_not_mem_print x.1⟩, ?_⟩
    · exact fun hmem => (before.2 _ hmem).2 rfl
    · exact fun hmem => (after.2 _ hmem).2 rfl
  | blank cs => exact fun hmem => (cs.2 _ hmem).2 rfl
  | junk j => exact j.onLine

variable {bs : List Char}

theorem trim_notification (x : { x : Notification // x.Consistent }) (before after : Blanks)
    (hb : ∀ c ∈ bs, Text.isBlank c = true) :
    Text.trim ((notification x before after).text ++ bs) = (Notification.codec.print x.1).toList := by
  have hafter : ∀ c ∈ after.1, Text.isBlank c = true := fun c hc => (after.2 c hc).1
  rw [Text.trim_append_right hb]
  exact trim_print x.1 (fun c hc => (before.2 c hc).1) hafter

theorem trim_blank (cs : Blanks) (hb : ∀ c ∈ bs, Text.isBlank c = true) :
    Text.trim ((blank cs).text ++ bs) = [] := by
  rw [Text.trim_append_right hb]
  exact Text.trim_eq_nil_iff.mpr fun c hc => (cs.2 c hc).1

theorem trim_junk_ne_nil (j : Junk) : Text.trim j.text ≠ [] := by
  obtain ⟨c, hc, hshown⟩ := j.shown
  intro hnil
  rw [Text.trim_eq_nil_iff.mp hnil c hc] at hshown
  cases hshown

/-- Blanks behind an entry change nothing. -/
theorem held?_text (e : Entry) (hb : ∀ c ∈ bs, Text.isBlank c = true) :
    held? (Text.bytes (e.text ++ bs)) = e.notification? := by
  rw [held?_bytes]
  cases e with
  | notification x before after =>
    rw [trim_notification x before after hb, String.ofList_toList]
    exact Notification.codec_renders.parse?_print (by decide) x.2
  | blank cs => rw [trim_blank cs hb, parse?_nil]; rfl
  | junk j => rw [Text.trim_append_right hb, text, j.refused]; rfl

theorem complaint?_text (e : Entry) (hb : ∀ c ∈ bs, Text.isBlank c = true) (number : Nat) :
    complaint? (Text.bytes (e.text ++ bs)) number = e.warning? number := by
  rw [complaint?, e.held?_text hb, text?_bytes, Option.any_some]
  cases e with
  | notification x before after => simp [notification?, warning?, isJunk]
  | blank cs => simp [trim_blank cs hb, warning?, isJunk]
  | junk j => simp [Text.trim_append_right hb, text, trim_junk_ne_nil j, notification?, warning?, isJunk]

theorem ofLines_cons (e : Entry) (hb : ∀ c ∈ bs, Text.isBlank c = true) (number : Nat)
    (ls : List (List UInt8)) : ofLines number (Text.bytes (e.text ++ bs) :: ls) =
      ⟨e.notification?.toList ++ (ofLines (number + 1) ls).notifications,
        (e.warning? number).toList ++ (ofLines (number + 1) ls).events⟩ := by
  have htext : isText (Text.bytes (e.text ++ bs)) = true := by
    rw [isText, text?_bytes, Option.isSome_some]
  rw [ofLines_of_isText htext, e.held?_text hb, e.complaint?_text hb]

/-- Only blanks can stand on a line that is not there. -/
theorem exists_blank_of_text_eq_nil {e : Entry} (he : e.text = []) : ∃ cs, e = blank cs := by
  cases e with
  | notification x before after =>
    obtain ⟨cs, hcs⟩ := exists_print_eq x.1
    simp [text, hcs] at he
  | blank cs => exact ⟨cs, rfl⟩
  | junk j =>
    obtain ⟨c, hc, -⟩ := j.shown
    exact absurd he (List.ne_nil_of_mem hc)

end Entry

namespace Document

/-- A document whose first line holds an entry, in front of others. -/
theorem lines_text_cons (p : Entry × Ending) (d : Document) :
    lines (Text.bytes (text ⟨p :: d.ended, d.unended⟩)) =
      Text.bytes (p.1.text ++ p.2.kept) :: lines (Text.bytes d.text) := by
  have hline : '\n' ∉ p.1.text ++ p.2.kept := by
    rw [List.mem_append, not_or]
    exact ⟨p.1.newline_not_mem, fun hmem => absurd (Ending.mem_kept hmem) (by decide)⟩
  have hnewline : ∀ cs, Text.bytes ('\n' :: cs) = 10 :: Text.bytes cs := fun _ => rfl
  have htext : Text.bytes (text ⟨p :: d.ended, d.unended⟩) =
      Text.bytes (p.1.text ++ p.2.kept) ++ 10 :: Text.bytes d.text := by
    simp only [text, List.flatMap_cons, List.append_assoc, List.cons_append, List.nil_append,
      Text.bytes_append, hnewline]
  rw [htext, lines_append_newline (Text.newline_not_mem_bytes hline)]

theorem ofLines_text (d : Document) (number : Nat) : ofLines number (lines (Text.bytes d.text)) =
    ⟨d.entries.filterMap Entry.notification?,
      (d.entries.zipIdx number).filterMap fun p => p.1.warning? p.2⟩ := by
  obtain ⟨ended, unended⟩ := d
  induction ended generalizing number with
  | nil =>
    cases unended with
    | none => rfl
    | some e =>
      have htext : text ⟨[], some e⟩ = e.text := rfl
      have hentries : entries ⟨[], some e⟩ = [e] := rfl
      have hline := Text.newline_not_mem_bytes e.newline_not_mem
      rw [htext, hentries, lines_of_newline_not_mem hline]
      by_cases he : e.text = []
      · obtain ⟨cs, rfl⟩ := Entry.exists_blank_of_text_eq_nil he
        rw [if_pos (by simpa using he)]
        rfl
      · have hread := e.ofLines_cons (List.forall_mem_nil _) number []
        rw [List.append_nil] at hread
        rw [if_neg (by simpa using he), hread]
        simp only [List.zipIdx_singleton, List.filterMap_cons, List.filterMap_nil, ofLines]
        cases e.notification? <;> cases e.warning? number <;> rfl
  | cons p ended ih =>
    have hblank : ∀ c ∈ p.2.kept, Text.isBlank c = true := by
      intro c hc
      rw [Ending.mem_kept hc]
      decide
    have hentries : entries ⟨p :: ended, unended⟩ = p.1 :: entries ⟨ended, unended⟩ := rfl
    rw [lines_text_cons p ⟨ended, unended⟩, p.1.ofLines_cons hblank, ih, hentries, List.zipIdx_cons,
      List.filterMap_cons, List.filterMap_cons]
    cases p.1.notification? <;> cases p.1.warning? number <;> rfl

/-- A feed reads a document back: all its notifications, in order, and the line of each entry that is junk. -/
theorem reads_back (d : Document) : ofContent (some (Text.bytes d.text)) =
    ⟨d.entries.filterMap Entry.notification?,
      (d.entries.zipIdx 1).filterMap fun p => p.1.warning? p.2⟩ :=
  d.ofLines_text 1

end Document

end Feed

namespace Sample

/-- A notification on a line without end, behind a blank line and one that says nothing. -/
def mixed : Feed.Document where
  ended :=
    [(.blank ⟨[' '], List.forall_mem_singleton.mpr (by decide)⟩, .lineFeed),
      (.junk ⟨"not json".toList, by decide, ⟨'n', by decide⟩, by decide +kernel⟩, .returnAndLineFeed)]
  unended := some
    (.notification ⟨.applied idle, trivial⟩ ⟨['\t'], List.forall_mem_singleton.mpr (by decide)⟩
      ⟨[], nofun⟩)

end Sample

theorem Feed.mixed_read : ofContent (some (Text.bytes Sample.mixed.text)) =
    ⟨[.applied Sample.idle], [.skippedLine 2]⟩ :=
  Sample.mixed.reads_back

end FinalityRelay
