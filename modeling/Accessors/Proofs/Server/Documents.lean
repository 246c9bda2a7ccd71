import Accessors.Server.Session
import Mathlib.Data.List.Induction
import Mathlib.Data.List.Nodup
import Mathlib.Logic.Function.Basic

/-!
# The documents of a session

An editor has documents open, and its messages tell the server what becomes of their texts. Of the
texts of one change the editor ends up with the last, and the server keeps the first. Hence the
server always knows which documents are open, but it has the editor's text of a document only as
long as the last message about it is not a change that ends with another text than it starts with.

* `Editor.send`, `Editor.Legal`: the editor's own documents, and the messages it may send.
* `Session.hear`: the session after messages, one after the other.
* `Notification.textAfter`: the text that the last message about a document leaves.
* `DocumentStore.get?_notify`, `Editor.send_apply`: one message, on both sides.
* `Session.get?_hear`, `Editor.sendAll_apply`: any number of messages, on both sides.
* `Session.documents_track`: when the server has the editor's documents.
* `Session.documents_stale`: a change with two texts.
-/

namespace Accessors

/-! ## Messages about documents -/

namespace Notification

def about (uri : Uri) : Notification → Bool
  | .opened u _ | .changed u _ | .closed u => decide (u = uri)
  | .ready | .exit => false

/-- The text that a message leaves of the document it is about; `pick` chooses among the texts of a
change. -/
def text? (pick : List Text → Option Text) : Notification → Option Text
  | .opened _ text => some text
  | .changed _ texts => pick texts
  | .closed _ | .ready | .exit => none

def lastAbout? (uri : Uri) (messages : List Notification) : Option Notification :=
  (messages.filter (about uri)).getLast?

def textAfter (pick : List Text → Option Text) (messages : List Notification) (uri : Uri) :
    Option Text :=
  (lastAbout? uri messages).bind (text? pick)

theorem textAfter_append_singleton (pick : List Text → Option Text) (messages : List Notification)
    (n : Notification) (uri : Uri) :
    textAfter pick (messages ++ [n]) uri =
      if n.about uri then n.text? pick else textAfter pick messages uri := by
  rw [textAfter, textAfter, lastAbout?, lastAbout?, List.filter_append]
  by_cases hn : n.about uri = true
  · rw [if_pos hn, List.filter_cons_of_pos hn, List.filter_nil, List.getLast?_append]
    rfl
  · rw [if_neg hn, List.filter_cons_of_neg hn, List.filter_nil, List.append_nil]

theorem mem_of_lastAbout? {uri : Uri} {messages : List Notification} {n : Notification}
    (h : lastAbout? uri messages = some n) : n ∈ messages ∧ n.about uri = true :=
  List.mem_filter.1 (List.mem_of_getLast? h)

/-- The last message about a document is a change that ends with another text than it starts with:
whoever keeps the first text of a change is behind. -/
def Behind (messages : List Notification) (uri : Uri) : Prop :=
  ∃ texts, lastAbout? uri messages = some (.changed uri texts) ∧ texts.head? ≠ texts.getLast?

/-- To keep the first text of each change or the last one makes no difference for a document on
which nobody is behind, and does make one for the others. -/
theorem textAfter_eq_iff (messages : List Notification) (uri : Uri) :
    textAfter List.head? messages uri = textAfter List.getLast? messages uri ↔
      ¬ Behind messages uri := by
  rw [textAfter, textAfter]
  constructor
  · rintro heq ⟨texts, hlast, hne⟩
    rw [hlast] at heq
    exact hne heq
  · intro hbehind
    cases hlast : lastAbout? uri messages with
    | none => rfl
    | some n =>
      cases n with
      | changed u texts =>
        have hu : u = uri := of_decide_eq_true (mem_of_lastAbout? hlast).2
        subst hu
        by_contra hne
        exact hbehind ⟨texts, hlast, hne⟩
      | opened u text => rfl
      | closed u => rfl
      | ready => rfl
      | exit => rfl

end Notification

/-! ## The editor -/

namespace Editor

/-- The editor's documents after it has sent a message. The texts of a change replace the text of
the document one after the other. -/
def send (view : Uri → Option Text) : Notification → Uri → Option Text
  | .opened uri text => Function.update view uri (some text)
  | .changed uri texts =>
    texts.foldl (fun view text => Function.update view uri (some text)) view
  | .closed uri => Function.update view uri none
  | .ready | .exit => view

def sendAll (messages : List Notification) : Uri → Option Text :=
  messages.foldl send fun _ => none

/-- The messages about PHP documents that an editor may send. Only an open document changes or
closes, and a change has at least one text. -/
def MaySend (view : Uri → Option Text) : Notification → Prop
  | .opened uri _ => uri.isPhp = true
  | .changed uri texts => uri.isPhp = true ∧ (view uri).isSome = true ∧ texts ≠ []
  | .closed uri => uri.isPhp = true ∧ (view uri).isSome = true
  | .ready | .exit => False

instance (view : Uri → Option Text) : (n : Notification) → Decidable (MaySend view n)
  | .opened _ _ => inferInstanceAs (Decidable (_ = true))
  | .changed _ _ => inferInstanceAs (Decidable (_ = true ∧ _ = true ∧ _ ≠ []))
  | .closed _ => inferInstanceAs (Decidable (_ = true ∧ _ = true))
  | .ready | .exit => inferInstanceAs (Decidable False)

inductive Legal : List Notification → Prop
  | nil : Legal []
  | snoc (messages : List Notification) (n : Notification) (h : Legal messages)
      (hn : MaySend (sendAll messages) n) : Legal (messages ++ [n])

theorem Legal.exists_maySend {messages : List Notification} (h : Legal messages) {n : Notification}
    (hn : n ∈ messages) : ∃ view, MaySend view n := by
  induction h with
  | nil => cases hn
  | snoc messages last _ hlast ih =>
    rcases List.mem_append.1 hn with hn | hn
    · exact ih hn
    · rw [List.mem_singleton.1 hn]
      exact ⟨_, hlast⟩

theorem Legal.of_append {front back : List Notification} (h : Legal (front ++ back)) :
    Legal front := by
  induction back using List.reverseRecOn with
  | nil => rwa [List.append_nil] at h
  | append_singleton back n ih =>
    rw [← List.append_assoc] at h
    generalize hall : front ++ back ++ [n] = all at h
    cases h with
    | nil => simp at hall
    | snoc messages last hlegal _ =>
      obtain ⟨hsame, -⟩ := List.append_inj' hall rfl
      exact ih (hsame ▸ hlegal)

theorem foldl_update (uri uri' : Uri) (texts : List Text) (view : Uri → Option Text) :
    texts.foldl (fun view text => Function.update view uri (some text)) view uri' =
      if uri = uri' then texts.getLast?.or (view uri') else view uri' := by
  induction texts generalizing view with
  | nil => simp
  | cons text texts ih =>
    rw [List.foldl_cons, ih]
    by_cases huri : uri = uri'
    · subst huri
      rw [if_pos rfl, if_pos rfl, Function.update_self, List.getLast?_cons]
      cases texts.getLast? <;> rfl
    · rw [if_neg huri, if_neg huri, Function.update_of_ne (Ne.symm huri)]

/-- One message leaves the last text of the document it is about, and every other document. -/
theorem send_apply {view : Uri → Option Text} {n : Notification} (hn : MaySend view n) (uri : Uri) :
    send view n uri = if n.about uri then n.text? List.getLast? else view uri := by
  cases n with
  | opened u text =>
    simp [send, Notification.about, Notification.text?, Function.update_apply, eq_comm (a := uri)]
  | changed u texts =>
    obtain ⟨-, -, htexts⟩ := hn
    rw [send, foldl_update]
    by_cases hu : u = uri
    · simp [Notification.about, Notification.text?, hu, List.getLast?_eq_some_getLast htexts]
    · simp [Notification.about, hu]
  | closed u =>
    simp [send, Notification.about, Notification.text?, Function.update_apply, eq_comm (a := uri)]
  | ready => cases hn
  | exit => cases hn

theorem sendAll_append_singleton (messages : List Notification) (n : Notification) :
    sendAll (messages ++ [n]) = send (sendAll messages) n := by
  rw [sendAll, List.foldl_append]
  rfl

/-- The editor has of each document what the last text sent for it says. -/
theorem sendAll_apply {messages : List Notification} (h : Legal messages) (uri : Uri) :
    sendAll messages uri = Notification.textAfter List.getLast? messages uri := by
  induction h with
  | nil => rfl
  | snoc messages n _ hn ih =>
    rw [sendAll_append_singleton, send_apply hn, Notification.textAfter_append_singleton, ih]

/-- A document of which some text is left is a PHP document, and whether some is left does not depend
on which text of a change is kept. -/
theorem Legal.isSome_textAfter {messages : List Notification} (h : Legal messages) (uri : Uri) :
    (Notification.textAfter List.head? messages uri).isSome =
        (Notification.textAfter List.getLast? messages uri).isSome ∧
      ((Notification.textAfter List.getLast? messages uri).isSome = true → uri.isPhp = true) := by
  rw [Notification.textAfter, Notification.textAfter]
  cases hlast : Notification.lastAbout? uri messages with
  | none => simp
  | some n =>
    obtain ⟨hmem, habout⟩ := Notification.mem_of_lastAbout? hlast
    obtain ⟨view, hn⟩ := h.exists_maySend hmem
    -- only a change could leave nothing where another choice leaves a text, and it is not empty
    cases n with
    | opened u text =>
      have hu : u = uri := of_decide_eq_true habout
      subst hu
      exact ⟨rfl, fun _ => hn⟩
    | changed u texts =>
      have hu : u = uri := of_decide_eq_true habout
      subst hu
      obtain ⟨hphp, -, htexts⟩ := hn
      refine ⟨?_, fun _ => hphp⟩
      cases texts with
      | nil => exact absurd rfl htexts
      | cons text texts => simp [Notification.text?]
    | closed u => simp [Notification.text?]
    | ready => cases hn
    | exit => cases hn

end Editor

/-! ## The store -/

namespace DocumentStore

def uris (s : DocumentStore) : List Uri := s.entries.map Prod.fst

def Distinct (s : DocumentStore) : Prop := s.uris.Nodup

theorem mem_uris {s : DocumentStore} {uri : Uri} : uri ∈ s.uris ↔ (s.get? uri).isSome = true := by
  rw [uris, get?, List.lookup_isSome_iff, List.mem_map]
  constructor
  · rintro ⟨e, he, rfl⟩
    exact ⟨e, he, beq_self_eq_true _⟩
  · rintro ⟨e, he, heq⟩
    exact ⟨e, he, (eq_of_beq heq).symm⟩

theorem get?_erase (s : DocumentStore) (u uri : Uri) :
    (s.erase u).get? uri = if u = uri then none else s.get? uri := by
  obtain ⟨entries⟩ := s
  simp only [erase, get?]
  induction entries with
  | nil => simp
  | cons e entries ih =>
    obtain ⟨v, text⟩ := e
    by_cases hv : v = u
    · rw [List.filter_cons_of_neg (by simpa using hv), ih, hv, List.lookup_cons]
      by_cases hu : u = uri
      · rw [if_pos hu, if_pos hu]
      · have hne : (uri == u) = false := beq_eq_false_iff_ne.2 (Ne.symm hu)
        rw [if_neg hu, if_neg hu, hne]
    · rw [List.filter_cons_of_pos (by simpa using hv), List.lookup_cons, List.lookup_cons, ih]
      cases huri : uri == v with
      | true =>
        have hne : ¬ u = uri := fun hu => hv (hu ▸ (eq_of_beq huri).symm)
        rw [if_neg hne, if_neg hne]
      | false => rfl

theorem get?_insert (s : DocumentStore) (u uri : Uri) (text : Text) :
    (s.insert u text).get? uri = if u = uri then some text else s.get? uri := by
  rw [insert, get?, List.lookup_cons]
  by_cases hu : u = uri
  · rw [if_pos hu, beq_iff_eq.2 hu.symm]
  · have hne : (uri == u) = false := beq_eq_false_iff_ne.2 (Ne.symm hu)
    have herase := get?_erase s u uri
    rw [if_neg hu] at herase
    rw [if_neg hu, hne]
    exact herase

theorem Distinct.erase {s : DocumentStore} (h : s.Distinct) (u : Uri) : (s.erase u).Distinct :=
  h.sublist (List.filter_sublist.map Prod.fst)

theorem Distinct.insert {s : DocumentStore} (h : s.Distinct) (u : Uri) (text : Text) :
    (s.insert u text).Distinct := by
  refine List.nodup_cons.2 ⟨?_, h.erase u⟩
  intro hmem
  have := mem_uris.1 hmem
  rw [get?_erase, if_pos rfl] at this
  cases this

/-- One message leaves the first text of the document it is about, and every other document. -/
theorem get?_notify {view : Uri → Option Text} {n : Notification} (hn : Editor.MaySend view n)
    (s : DocumentStore) (uri : Uri) :
    (s.notify n).get? uri = if n.about uri then n.text? List.head? else s.get? uri := by
  cases n with
  | opened u text =>
    have hphp : u.isPhp = true := hn
    simp [notify, hphp, get?_insert, Notification.about, Notification.text?]
  | changed u texts =>
    obtain ⟨hphp, -, htexts⟩ := hn
    cases texts with
    | nil => exact absurd rfl htexts
    | cons text texts =>
      simp [notify, hphp, get?_insert, Notification.about, Notification.text?]
  | closed u => simp [notify, get?_erase, Notification.about, Notification.text?]
  | ready => cases hn
  | exit => cases hn

theorem Distinct.notify {s : DocumentStore} (h : s.Distinct) (n : Notification) :
    (s.notify n).Distinct := by
  cases n with
  | opened u text =>
    rw [DocumentStore.notify]
    split
    · exact h.insert u text
    · exact h
  | changed u texts =>
    cases texts with
    | nil => exact h
    | cons text texts =>
      rw [DocumentStore.notify]
      split
      · exact h.insert u text
      · exact h
  | closed u => exact h.erase u
  | ready => exact h
  | exit => exact h

end DocumentStore

/-! ## Sessions -/

namespace Session

/-- A session that has been started and has heard of no document. -/
def started (settings : ServerSettings) : Session := (initial.request settings .start).1

/-- The session after messages, handled one at a time. -/
def hear (s : Session) (messages : List Notification) : Session :=
  messages.foldl (fun s n => (s.notify n).1) s

theorem hear_append_singleton (s : Session) (messages : List Notification) (n : Notification) :
    s.hear (messages ++ [n]) = ((s.hear messages).notify n).1 := by
  rw [hear, List.foldl_append]
  rfl

theorem notify_of_running {s : Session} (hs : s.phase = .running) {view : Uri → Option Text}
    {n : Notification} (hn : Editor.MaySend view n) :
    (s.notify n).1 = { s with documents := s.documents.notify n } := by
  obtain ⟨phase, documents⟩ := s
  cases hs
  cases n with
  | opened u text => rfl
  | changed u texts => rfl
  | closed u => rfl
  | ready => cases hn
  | exit => cases hn

/-- The server keeps running, has no document twice, and has of each document what the first text
of the last message about it says. -/
theorem get?_hear (settings : ServerSettings) {messages : List Notification}
    (h : Editor.Legal messages) :
    ((started settings).hear messages).phase = .running ∧
      ((started settings).hear messages).documents.Distinct ∧
      ∀ uri, ((started settings).hear messages).documents.get? uri =
        Notification.textAfter List.head? messages uri := by
  induction h with
  | nil => exact ⟨rfl, List.nodup_nil, fun _ => rfl⟩
  | snoc messages n _ hn ih =>
    obtain ⟨hrunning, hdistinct, hget⟩ := ih
    rw [hear_append_singleton, notify_of_running hrunning hn]
    refine ⟨hrunning, hdistinct.notify _, fun uri => ?_⟩
    rw [DocumentStore.get?_notify hn, hget, Notification.textAfter_append_singleton]

/-- The answer to a request for the code actions on a document with a text. -/
def answerFor (settings : ServerSettings) (uri : Uri) (text : Text) : Reply :=
  match CodeAction.all settings text with
  | [] => .nothing
  | actions => .codeActions uri actions

theorem request_codeActions {settings : ServerSettings} {s : Session} (hs : s.phase = .running)
    {uri : Uri} (hphp : uri.isPhp = true) {text : Text} (hget : s.documents.get? uri = some text) :
    s.request settings (.codeActions uri) = (s, answerFor settings uri text, []) := by
  obtain ⟨phase, documents⟩ := s
  cases hs
  simp only [request, receive, requestRunning, codeActions, hphp, hget, settle, answerFor,
    Bool.not_true, Bool.false_eq_true, if_false]
  cases CodeAction.all settings text <;> rfl

/-- After each of the messages that an editor sends, the server has exactly the documents that are
open in the editor, each of them once. It has the editor's text of a document exactly when it is not
behind on it, and then code actions are planned for that text. -/
theorem documents_track (settings : ServerSettings) {messages front : List Notification}
    (h : Editor.Legal messages) (hfront : front <+: messages) :
    ((started settings).hear front).documents.Distinct ∧
    (∀ uri, uri ∈ ((started settings).hear front).documents.uris ↔
      (Editor.sendAll front uri).isSome = true) ∧
    (∀ uri, ((started settings).hear front).documents.get? uri = Editor.sendAll front uri ↔
      ¬ Notification.Behind front uri) ∧
    ∀ uri text, Editor.sendAll front uri = some text → ¬ Notification.Behind front uri →
      ((started settings).hear front).request settings (.codeActions uri) =
        ((started settings).hear front, answerFor settings uri text, []) := by
  obtain ⟨back, rfl⟩ := hfront
  have hlegal := h.of_append
  obtain ⟨hrunning, hdistinct, hget⟩ := get?_hear settings hlegal
  have htrack : ∀ uri, ((started settings).hear front).documents.get? uri =
      Editor.sendAll front uri ↔ ¬ Notification.Behind front uri := by
    intro uri
    rw [hget, Editor.sendAll_apply hlegal, Notification.textAfter_eq_iff]
  refine ⟨hdistinct, fun uri => ?_, htrack, fun uri text htext hbehind => ?_⟩
  · rw [DocumentStore.mem_uris, hget, Editor.sendAll_apply hlegal,
      (hlegal.isSome_textAfter uri).1]
  · have hphp : uri.isPhp = true := by
      refine (hlegal.isSome_textAfter uri).2 ?_
      rw [← Editor.sendAll_apply hlegal, htext]
      rfl
    exact request_codeActions hrunning hphp (((htrack uri).2 hbehind).trans htext)

/-- Two documents, one of which is changed over a detour and the other one closed. -/
theorem documents_track_detour :
    let a : Uri := ⟨"file".toList, some [], "/a.php".toList, none, none⟩
    let b : Uri := ⟨"file".toList, some [], "/b.php".toList, none, none⟩
    let messages : List Notification :=
      [.opened a "1".toList, .opened b "2".toList, .changed a ["3".toList, "4".toList, "3".toList],
        .closed b]
    ∀ settings, Editor.sendAll messages a = some "3".toList ∧
      ((started settings).hear messages).documents.get? a = some "3".toList ∧
      b ∉ ((started settings).hear messages).documents.uris := by
  intro a b messages settings
  have hlegal : Editor.Legal messages :=
    .snoc [_, _, _] _ (.snoc [_, _] _ (.snoc [_] _ (.snoc [] _ .nil (by decide)) (by decide))
      (by decide)) (by decide)
  obtain ⟨-, hopen, htrack, -⟩ :=
    documents_track settings hlegal (List.prefix_refl messages)
  have hbehind : ¬ Notification.Behind messages a := by
    rintro ⟨texts, hlast, hne⟩
    cases hlast
    exact hne rfl
  have hview : Editor.sendAll messages a = some "3".toList := by decide
  refine ⟨hview, ((htrack a).2 hbehind).trans hview, fun hmem => ?_⟩
  exact absurd ((hopen b).1 hmem) (by decide)

/-- A change with two texts leaves the server with the first of them, while the editor has the
second. -/
theorem documents_stale :
    let a : Uri := ⟨"file".toList, some [], "/a.php".toList, none, none⟩
    let messages : List Notification := [.opened a "1".toList, .changed a ["2".toList, "3".toList]]
    Editor.Legal messages ∧ Editor.sendAll messages a = some "3".toList ∧
      ∀ settings, ((started settings).hear messages).documents.get? a = some "2".toList := by
  intro a messages
  refine ⟨?_, by decide, fun settings => ?_⟩
  · exact .snoc [_] _ (.snoc [] _ .nil (by decide)) (by decide)
  · rfl

end Session

end Accessors
