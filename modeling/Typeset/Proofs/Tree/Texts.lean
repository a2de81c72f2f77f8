import Mathlib.Data.List.Induction
import Typeset.Proofs.Tree.Visit

/-!
# Texts that reach the output

Which texts of a tree its conversion writes, and what it writes around them. A law of texts is a
property that every template passes on from the texts it puts together; a conversion passes it on
from the texts of the visited nodes to its output.
-/

namespace Typeset

/-- The texts that templates consist of, apart from commands. -/
def templateTexts : List String :=
  ["", "\n", "\n\n", "\n\n\n", "$", " \\\\\n", "\\maketitle\n\n\n", "\\tableofcontents\n\n\n",
    "\\newpage\n\n", "\\item ", "NOTE", "document", "enumerate", "itemize", "verbatim"] ++ colourRoles

/-- The commands that templates use. -/
def commandNames : List String :=
  ["title", "author", "date", "begin", "end", "admonition", "textbf", "emph", "texttt", "textcolor",
    "href", "label", "ref"] ++ sectionCommands

/-- The texts that templates consist of, but for the mark of an entry. -/
def plainTexts : List String :=
  templateTexts.filter (· ≠ "\\item ")

/-- The commands that templates use, but for those that begin and end an environment. -/
def plainCommands : List String :=
  commandNames.filter (· ∉ ["begin", "end"])

/-- The given texts, if the node has a template that writes them. -/
def Node.written (style : Style) (node : Node) (texts : List String) : List String :=
  if (node.text? style).isOk then texts else []

namespace Fields

/-- The texts that a block of these fields writes besides what its children read. -/
def blockTexts (style : Style) (fields : Fields) (content : Option String) : List String :=
  match fields.blockKind with
  | .pageBreak => []
  | .admonition => fields.style.toList.map Text.upperCase ++ content.toList
  | _ => (fields.block "").written style content.toList

/-- The texts that a span of these fields writes besides what its children read. -/
def inlineTexts (style : Style) (fields : Fields) : List String :=
  match fields.inlineKind with
  | .anchor _ => (fields.inline "").written style (fields.text.toList ++ fields.target.toList)
  | _ => (fields.inline "").written style fields.text.toList

end Fields

/-- The texts of a node that its template writes: none if it has no template. -/
def Tree.ownTexts (style : Style) (tree : Tree) : List String :=
  match tree.fields.nodeClass with
  | .leaf => tree.fields.text.toList
  | .unknown => []
  | .document => tree.fields.title.toList ++ tree.fields.author.toList ++ tree.fields.date.toList
  | .heading => (tree.fields.heading "").written style tree.fields.title.toList
  | .itemList => (tree.fields.itemList []).written style (tree.entries.map Entry.text)
  | .block => tree.fields.blockTexts style (tree.fields.ownContent? tree.children.isEmpty)
  | .inline => tree.fields.inlineTexts style

/-- The label of an admonition without one of its own. -/
lemma upperCase_note : Text.upperCase "note" = "NOTE" := by
  decide

/-- What holds of two texts holds of the first one that is not empty. -/
lemma orElse_of {P : String → Prop} {first second : String} (l : P first) (r : P second) :
    P (orElse first second) := by
  unfold orElse
  split
  · exact r
  · exact l

/-- Texts put together keep what two texts keep. -/
lemma join_of {P : String → Prop} {texts : List String} (empty : P "")
    (append : ∀ {left right}, P left → P right → P (left ++ right))
    (holds : ∀ text ∈ texts, P text) : P (String.join texts) := by
  induction texts with
  | nil => exact empty
  | cons text texts ih =>
    obtain ⟨here, later⟩ := List.forall_mem_cons.1 holds
    rw [String.join_cons]
    exact append here (ih later)

/-- Trimming keeps what is kept when a bracket is dropped at either end. -/
lemma trimBrackets_of {P : List Char → Prop} {text : String}
    (front : ∀ {c rest}, isBracket c = true → P (c :: rest) → P rest)
    (back : ∀ {c rest}, isBracket c = true → P (rest ++ [c]) → P rest) (whole : P text.toList) :
    P (trimBrackets text).toList := by
  have fronts (text : List Char) (whole : P text) : P (text.dropWhile isBracket) := by
    induction text with
    | nil => exact whole
    | cons c text ih =>
      rw [List.dropWhile_cons]
      split
      · next bracket => exact ih (front bracket whole)
      · exact whole
  have backs (text : List Char) (whole : P text) :
      P (text.reverse.dropWhile isBracket).reverse := by
    induction text using List.reverseRecOn with
    | nil => exact whole
    | append_singleton text c ih =>
      rw [List.reverse_concat, List.dropWhile_cons]
      split
      · next bracket => exact ih (back bracket whole)
      · rw [List.reverse_cons, List.reverse_reverse]
        exact whole
  rw [trimBrackets, String.toList_ofList]
  exact backs _ (fronts _ whole)

/-- What holds of a text and is not lost with a hash holds without the hash. -/
lemma dropHash_of {P : List Char → Prop} {text : String} (drop : ∀ {rest}, P ('#' :: rest) → P rest)
    (whole : P text.toList) : P (dropHash text).toList := by
  unfold dropHash
  split
  · next rest eq =>
    rw [eq] at whole
    rw [String.toList_ofList]
    exact drop whole
  · exact whole

/-- Whether quoted text has a template does not depend on the text. -/
lemma Inline.isOk_quotedText? {style : Style} (span : Inline) (text : String) (kind : QuotedKind) :
    (({ span with text } : Inline).quotedText? style kind).isOk =
      (span.quotedText? style kind).isOk := by
  cases kind with
  | plain =>
    simp only [quotedText?, role?]
    cases span.attributes.find? "role" with
    | none => simp only [Except.isOk, Except.toBool]
    | some role =>
      simp only [applyRole?]
      cases style.roles.find? role with
      | some macroName => rfl
      | none => cases colourRoles.contains role <;> rfl
  | _ => simp only [quotedText?, Except.isOk, Except.toBool]

namespace Fields

variable {style : Style} (fields : Fields)

/-- Whether a heading has a text does not depend on its content. -/
lemma isOk_heading (content : String) :
    ((fields.heading content).text? style).isOk = ((fields.heading "").text? style).isOk := by
  simp only [heading, Node.text?, Heading.text?]
  cases sectionCommand? (fields.level.getD 0) <;> simp only [Except.isOk, Except.toBool]

/-- Whether a list has a text does not depend on its items. -/
lemma isOk_itemList (items : List ListItem) :
    ((fields.itemList items).text? style).isOk = ((fields.itemList []).text? style).isOk := by
  simp only [itemList, Node.text?, ItemList.text?]
  cases fields.listKind.environment? <;> simp only [Except.isOk, Except.toBool]

/-- Whether a block has a text does not depend on its content. -/
lemma isOk_block (content : String) :
    ((fields.block content).text? style).isOk = ((fields.block "").text? style).isOk := by
  simp only [block, Node.text?, Block.text?]
  cases fields.blockKind <;> simp only [Except.isOk, Except.toBool]

/-- Whether a span has a text does not depend on what is in it. -/
lemma isOk_inline (text : String) :
    ((fields.inline text).text? style).isOk = ((fields.inline "").text? style).isOk := by
  simp only [inline, Node.text?, Inline.text?]
  cases fields.inlineKind with
  | quoted kind => exact Inline.isOk_quotedText? ⟨_, "", _, _⟩ text kind
  | anchor kind =>
    simp only [Inline.anchorText?]
    cases kind <;> simp only [Except.isOk, Except.toBool]
  | lineBreak => simp only [Except.isOk, Except.toBool]
  | other name => simp only [Except.isOk, Except.toBool]

end Fields

/-- A node that has a text is not refused. -/
lemma Node.isOk {style : Style} {node : Node} {text : String} (ok : node.text? style = .ok text) :
    (node.text? style).isOk = true := by
  rw [ok]
  rfl

section Written

variable {P : String → Prop} {style : Style}

/-- What holds of all that is written of a node with a text holds of its texts. -/
lemma Node.of_written {node : Node} {texts : List String}
    (holds : ∀ text ∈ node.written style texts, P text) (ok : (node.text? style).isOk = true) :
    ∀ text ∈ texts, P text := by
  rw [written, if_pos ok] at holds
  exact holds

namespace Fields

variable {fields : Fields}

/-- What holds of the texts of a block holds of its content, unless it is a page break. -/
lemma content_of_blockTexts {content : Option String}
    (holds : ∀ text ∈ fields.blockTexts style content, P text)
    (apart : fields.blockKind ≠ .pageBreak)
    (ok : ((fields.block "").text? style).isOk = true) : ∀ text ∈ content.toList, P text := by
  unfold blockTexts at holds
  cases kind : fields.blockKind with
  | pageBreak => exact absurd kind apart
  | admonition =>
    rw [kind] at holds
    exact (List.forall_mem_append.1 holds).2
  | _ =>
    rw [kind] at holds
    exact Node.of_written holds ok

/-- What holds of the texts of an admonition holds of its label. -/
lemma style_of_blockTexts {content : Option String}
    (holds : ∀ text ∈ fields.blockTexts style content, P text)
    (kind : fields.blockKind = .admonition) :
    ∀ label ∈ fields.style.toList, P (Text.upperCase label) := by
  rw [blockTexts, kind] at holds
  exact List.forall_mem_map.1 (List.forall_mem_append.1 holds).1

/-- What holds of the texts of a span holds of its own text, and of its target if it is an anchor.
-/
lemma of_inlineTexts (holds : ∀ text ∈ fields.inlineTexts style, P text)
    (ok : ((fields.inline "").text? style).isOk = true) :
    (∀ text ∈ fields.text.toList, P text) ∧
      ∀ kind, fields.inlineKind = .anchor kind → ∀ text ∈ fields.target.toList, P text := by
  unfold inlineTexts at holds
  cases kind : fields.inlineKind with
  | anchor anchor =>
    rw [kind] at holds
    obtain ⟨own, target⟩ := List.forall_mem_append.1 (Node.of_written holds ok)
    exact ⟨own, fun _ _ => target⟩
  | _ =>
    rw [kind] at holds
    exact ⟨Node.of_written holds ok, nofun⟩

end Fields

end Written

/-- A property of texts that holds of what templates write if it holds of what they are given. -/
structure TextLaw (P Name : String → Prop) : Prop where
  fixed : ∀ text ∈ templateTexts, P text
  names : ∀ name ∈ commandNames, Name name
  append : ∀ {left right : String}, P left → P right → P (left ++ right)
  command : ∀ {name : String} {arguments : List String}, Name name → arguments ≠ [] →
    (∀ argument ∈ arguments, P argument) → P (Latex.command name arguments)
  stem : ∀ {content : String}, P content → P (stemText content)
  strip : ∀ {content : String}, P content → P (DisplayMath.strip content)
  trimBrackets : ∀ {text : String}, P text → P (trimBrackets text)
  dropHash : ∀ {text : String}, P text → P (dropHash text)

/-- The body of a list: its entries, each in a paragraph of its own. -/
def listBody (items : List ListItem) : String :=
  "\n\n" ++ String.join (items.map ListItem.written)

/-- A property of texts that holds of what templates write if it holds of what they are given. It is
less than a law of texts: environments and lists obey it as a whole, not the commands that begin and
end them, nor the mark of an entry. -/
structure TemplateLaw (P Name : String → Prop) : Prop where
  fixed : ∀ text ∈ plainTexts, P text
  names : ∀ name ∈ plainCommands, Name name
  append : ∀ {left right : String}, P left → P right → P (left ++ right)
  command : ∀ {name : String} {arguments : List String}, Name name → arguments ≠ [] →
    (∀ argument ∈ arguments, P argument) → P (Latex.command name arguments)
  environment : ∀ {name body : String}, name ∈ ["document", "verbatim"] → P body →
    P (Latex.environment name body)
  entries : ∀ {name : String} {items : List ListItem}, name ∈ ["enumerate", "itemize"] →
    (∀ item ∈ items, P item.text ∧ P item.content) → P (Latex.environment name (listBody items))
  stem : ∀ {content : String}, P content → P (stemText content)
  strip : ∀ {content : String}, P content → P (DisplayMath.strip content)
  trimBrackets : ∀ {text : String}, P text → P (trimBrackets text)
  dropHash : ∀ {text : String}, P text → P (dropHash text)

/-- The fragments obey a law of texts, and the macros its law of names. -/
structure Style.Obeys (P Name : String → Prop) (style : Style) : Prop where
  preamble : P style.fragments.preamble
  frameworkMacros : P style.fragments.frameworkMacros
  userMacros : P style.fragments.userMacros
  macros : ∀ role macroName, style.roles.find? role = some macroName → Name macroName

namespace TextLaw

variable {P Name : String → Prop}

/-- A law of texts holds of an environment if it holds of its body. -/
lemma environment (law : TextLaw P Name) {name body : String} (mem : name ∈ templateTexts)
    (holds : P body) : P (Latex.environment name body) := by
  have argument : ∀ given ∈ [name], P given := List.forall_mem_singleton.2 (law.fixed name mem)
  have begins := law.command (law.names "begin" (by decide)) (List.cons_ne_nil _ _) argument
  have ends := law.command (law.names "end" (by decide)) (List.cons_ne_nil _ _) argument
  exact law.append (law.append begins holds) ends

/-- A law of texts holds of texts one after the other if it holds of each. -/
lemma join (law : TextLaw P Name) {texts : List String} (holds : ∀ text ∈ texts, P text) :
    P (String.join texts) :=
  join_of (law.fixed "" (by decide)) law.append holds

/-- A law of texts holds of the body of a list if it holds of its items. -/
lemma listBody (law : TextLaw P Name) {items : List ListItem}
    (holds : ∀ item ∈ items, P item.text ∧ P item.content) : P (listBody items) := by
  have gap := law.fixed "\n\n" (by decide)
  refine law.append gap (law.join (List.forall_mem_map.2 fun item mem => ?_))
  obtain ⟨own, nested⟩ := holds item mem
  exact law.append (law.append (law.append (law.fixed "\\item " (by decide)) own) gap) nested

/-- A law of texts is a law of templates. -/
lemma toTemplateLaw (law : TextLaw P Name) : TemplateLaw P Name where
  fixed text mem := law.fixed text (List.mem_filter.1 mem).1
  names name mem := law.names name (List.mem_filter.1 mem).1
  append := law.append
  command := law.command
  environment mem holds := by
    have known : ∀ name ∈ ["document", "verbatim"], name ∈ templateTexts := by decide
    exact law.environment (known _ mem) holds
  entries mem holds := by
    have known : ∀ name ∈ ["enumerate", "itemize"], name ∈ templateTexts := by decide
    exact law.environment (known _ mem) (law.listBody holds)
  stem := law.stem
  strip := law.strip
  trimBrackets := law.trimBrackets
  dropHash := law.dropHash

end TextLaw

/-- The commands of the levels are those of sections. -/
lemma sectionCommand?_mem {level : Nat} {name : String}
    (found : sectionCommand? level = some name) : name ∈ sectionCommands := by
  cases level with
  | zero => cases found
  | succ level => exact List.mem_of_getElem? found

/-- The environments of lists are two. -/
lemma ListKind.mem_of_environment? {kind : ListKind} {name : String}
    (known : kind.environment? = some name) : name ∈ ["enumerate", "itemize"] := by
  cases kind with
  | ordered =>
    cases known
    decide
  | unordered =>
    cases known
    decide
  | other kind => cases known

/-- A list is the environment of its kind around its entries. -/
lemma ItemList.text?_eq (list : ItemList) :
    list.text? =
      match list.kind.environment? with
      | some name => .ok (Latex.environment name (listBody list.items) ++ "\n\n")
      | none => .error (.unrecognizedKind "list" list.kind.name none) := by
  unfold text?
  cases list.kind.environment? <;> rfl

/-- A list with a text is an environment around its items. -/
lemma ItemList.exists_environment {list : ItemList} {text : String} (ok : list.text? = .ok text) :
    ∃ name, list.kind.environment? = some name ∧
      text = Latex.environment name (listBody list.items) ++ "\n\n" := by
  rw [text?_eq] at ok
  cases known : list.kind.environment? with
  | some name =>
    rw [known] at ok
    cases ok
    exact ⟨name, rfl, rfl⟩
  | none =>
    rw [known] at ok
    cases ok

/-- A document is the fragments, the lines of its header, and an environment around its body. -/
lemma Document.text_eq_environment (style : Style) (root : Document) :
    root.text style =
      style.fragments.concat ++
          ("\n\n" ++ Latex.command "title" [root.title.getD ""] ++ "\n" ++
            Latex.command "author" [root.author.getD ""] ++ "\n" ++
            Latex.command "date" [root.date.getD ""] ++ "\n\n\n" ++ "\n\n") ++
        Latex.environment "document"
          ("\n" ++ "\\maketitle\n\n\n" ++
            (if root.hasContentsTable then "\\tableofcontents\n\n\n" else "") ++
            DisplayMath.strip root.content ++ "\n\n") ++ "\n\n" := by
  unfold text frontMatter Latex.environment
  -- The commands only stand between other texts: what they read does not matter.
  generalize Latex.command "title" _ = title, Latex.command "author" _ = author,
    Latex.command "date" _ = date, Latex.command "begin" _ = begins, Latex.command "end" _ = ends
  simp only [String.append_assoc]

namespace TemplateLaw

variable {P Name : String → Prop} {style : Style}

/-- A command of the templates with one argument. -/
lemma commandOf (law : TemplateLaw P Name) {name argument : String} (mem : name ∈ plainCommands)
    (holds : P argument) : P (Latex.command name [argument]) :=
  law.command (law.names name mem) (List.cons_ne_nil _ _) (List.forall_mem_singleton.2 holds)

/-- A law of templates holds of the empty text. -/
lemma empty (law : TemplateLaw P Name) : P "" :=
  law.fixed "" (by decide)

/-- A law of templates holds of a line break. -/
lemma line (law : TemplateLaw P Name) : P "\n" :=
  law.fixed "\n" (by decide)

/-- A law of templates holds of an empty line. -/
lemma gap (law : TemplateLaw P Name) : P "\n\n" :=
  law.fixed "\n\n" (by decide)

/-- A law of templates holds of a text that may be given if it holds where it is. -/
lemma getD (law : TemplateLaw P Name) {text : Option String}
    (holds : ∀ given ∈ text.toList, P given) : P (text.getD "") := by
  cases text with
  | none => exact law.empty
  | some given => exact holds given (List.mem_singleton.2 rfl)

/-- A law of templates holds of texts with a separator between them if it holds of all of them. -/
lemma intercalate (law : TemplateLaw P Name) {between : String} {texts : List String}
    (sep : P between) (holds : ∀ text ∈ texts, P text) : P (between.intercalate texts) := by
  induction texts with
  | nil => exact law.empty
  | cons text texts ih =>
    obtain ⟨here, later⟩ := List.forall_mem_cons.1 holds
    cases texts with
    | nil =>
      rw [String.intercalate_singleton]
      exact here
    | cons next texts =>
      rw [String.intercalate_cons_cons]
      exact law.append (law.append here sep) (ih later)

/-- A document obeys a law of templates if what it is given does. -/
lemma document (law : TemplateLaw P Name) (obeys : style.Obeys P Name) {root : Document}
    (title : P (root.title.getD "")) (author : P (root.author.getD ""))
    (date : P (root.date.getD "")) (content : P root.content) : P (root.text style) := by
  have contents : P (if root.hasContentsTable then "\\tableofcontents\n\n\n" else "") := by
    split
    · exact law.fixed _ (by decide)
    · exact law.empty
  have fragments : P style.fragments.concat :=
    law.append (law.append obeys.preamble obeys.frameworkMacros) obeys.userMacros
  have titled := law.append law.gap (law.commandOf (by decide : "title" ∈ plainCommands) title)
  have authored := law.append (law.append titled law.line)
    (law.commandOf (by decide : "author" ∈ plainCommands) author)
  have dated := law.append (law.append authored law.line)
    (law.commandOf (by decide : "date" ∈ plainCommands) date)
  have header := law.append (law.append dated (law.fixed "\n\n\n" (by decide))) law.gap
  have begun := law.append law.line (law.fixed "\\maketitle\n\n\n" (by decide))
  have body := law.append (law.append (law.append begun contents) (law.strip content)) law.gap
  have enclosed := law.environment (by decide : "document" ∈ ["document", "verbatim"]) body
  rw [Document.text_eq_environment]
  exact law.append (law.append (law.append fragments header) enclosed) law.gap

/-- A heading obeys a law of templates if its title and its content do. -/
lemma heading (law : TemplateLaw P Name) {part : Heading} {text : String} (title : P part.title)
    (content : P part.content) (ok : part.text? = .ok text) : P text := by
  unfold Heading.text? at ok
  cases found : sectionCommand? part.level with
  | none =>
    rw [found] at ok
    cases ok
  | some name =>
    have known : ∀ name ∈ sectionCommands, name ∈ plainCommands := by decide
    have mem : name ∈ plainCommands := known name (sectionCommand?_mem found)
    rw [found] at ok
    cases ok
    have titled := law.append (law.commandOf mem title) law.gap
    exact law.append (law.append titled content) law.gap

/-- A list obeys a law of templates if its items do. -/
lemma itemList (law : TemplateLaw P Name) {list : ItemList} {text : String}
    (items : ∀ item ∈ list.items, P item.text ∧ P item.content) (ok : list.text? = .ok text) :
    P text := by
  obtain ⟨name, known, rfl⟩ := ItemList.exists_environment ok
  exact law.append (law.entries (ListKind.mem_of_environment? known) items) law.gap

/-- A block obeys a law of templates if its content does, unless it is a page break, and so does its
label if it is an admonition. -/
lemma block (law : TemplateLaw P Name) {body : Block} {text : String}
    (content : body.kind ≠ .pageBreak → P body.content)
    (label : body.kind = .admonition → P (Text.upperCase (body.style.getD "note")))
    (ok : body.text? = .ok text) : P text := by
  obtain ⟨kind, look, inner, lines⟩ := body
  cases kind with
  | paragraph =>
    cases ok
    exact law.append (content nofun) law.gap
  | stem =>
    cases ok
    exact law.stem (content nofun)
  | admonition =>
    cases ok
    have arguments := List.forall_mem_cons.2
      ⟨label rfl, List.forall_mem_singleton.2 (content nofun)⟩
    have name := law.names "admonition" (by decide)
    exact law.append (law.command name (List.cons_ne_nil _ _) arguments) law.gap
  | pageBreak =>
    cases ok
    exact law.fixed _ (by decide)
  | literal =>
    cases ok
    have lines := law.append (law.append law.line (content nofun)) law.line
    exact law.append (law.environment (by decide) lines) law.gap
  | pass =>
    cases ok
    exact content nofun
  | other name => cases ok

/-- A role obeys a law of templates if what it is put around does. -/
lemma applyRole? (law : TemplateLaw P Name) (obeys : style.Obeys P Name) {role text styled : String}
    (own : P text) (found : applyRole? style.roles role text = some styled) : P styled := by
  unfold Typeset.applyRole? at found
  split at found
  · next macroName configured =>
    cases found
    have name := obeys.macros role macroName configured
    exact law.command name (List.cons_ne_nil _ _) (List.forall_mem_singleton.2 own)
  · split at found
    · next colour =>
      cases found
      have known : ∀ role ∈ colourRoles, role ∈ plainTexts := by decide
      have mem : role ∈ plainTexts := known role (List.contains_iff_mem.1 colour)
      have arguments := List.forall_mem_cons.2
        ⟨law.fixed role mem, List.forall_mem_singleton.2 own⟩
      exact law.command (law.names "textcolor" (by decide)) (List.cons_ne_nil _ _) arguments
    · cases found

/-- A span obeys a law of templates if its text does, and so does its target if it is an anchor. -/
lemma inline (law : TemplateLaw P Name) (obeys : style.Obeys P Name) {span : Inline} {text : String}
    (own : P span.text) (target : ∀ kind, span.kind = .anchor kind → P (span.target.getD ""))
    (ok : span.text? style = .ok text) : P text := by
  obtain ⟨kind, words, address, attributes⟩ := span
  cases kind with
  | quoted kind =>
    cases kind with
    | strong =>
      cases ok
      exact law.commandOf (by decide) own
    | emphasis =>
      cases ok
      exact law.commandOf (by decide) own
    | math =>
      cases ok
      have sign := law.fixed "$" (by decide)
      exact law.append (law.append sign own) sign
    | monospace =>
      cases ok
      exact law.commandOf (by decide) own
    | plain =>
      simp only [Inline.text?, Inline.quotedText?] at ok
      split at ok
      · cases ok
        exact own
      · split at ok
        · next styled found =>
          cases ok
          exact law.applyRole? obeys own found
        · cases ok
    | other name => cases ok
  | anchor kind =>
    have target := target kind rfl
    cases kind with
    | link =>
      cases ok
      have arguments := List.forall_mem_cons.2
        ⟨target, List.forall_mem_singleton.2 (orElse_of own target)⟩
      exact law.command (law.names "href" (by decide)) (List.cons_ne_nil _ _) arguments
    | label =>
      cases ok
      exact law.commandOf (by decide) (law.trimBrackets (orElse_of own target))
    | crossReference =>
      cases ok
      exact law.commandOf (by decide) (law.dropHash (orElse_of target own))
    | other name => cases ok
  | lineBreak =>
    cases ok
    exact law.append own (law.fixed _ (by decide))
  | other name => cases ok

/-- A law of templates holds of what a node renders to if it holds of its text. -/
lemma render (law : TemplateLaw P Name) {node : Node}
    (holds : ∀ text, node.text? style = .ok text → P text) : P (node.render style).output := by
  unfold Node.render
  cases ok : node.text? style with
  | ok text => exact holds text ok
  | error diagnostic => exact law.empty

/-- What siblings read obeys a law if what each of them converts to does. -/
lemma siblingText (law : TemplateLaw P Name) {siblings : List Tree}
    (holds : ∀ sibling ∈ siblings, P (sibling.convert style).output) :
    P (siblingText style siblings) := by
  refine law.intercalate ?_ (List.forall_mem_map.2 holds)
  unfold separator
  split
  · exact law.empty
  · exact law.line

/-- A node renders by a law if its own texts obey it, and the contents that it reads. -/
lemma ownRendering (law : TemplateLaw P Name) (obeys : style.Obeys P Name) {tree : Tree}
    {content : List Tree → String} (texts : ∀ text ∈ tree.ownTexts style, P text)
    (children : tree.walksChildren = true → P (content tree.children))
    (entries : tree.walksEntries = true → ∀ entry ∈ tree.entries, P (content entry.children)) :
    P (tree.ownRendering style content).output := by
  unfold Tree.ownTexts at texts
  unfold Tree.ownRendering
  cases kind : tree.fields.nodeClass with
  | leaf =>
    rw [kind] at texts
    exact law.getD texts
  | unknown => exact law.empty
  | document =>
    simp only [kind, List.forall_mem_append] at texts
    obtain ⟨⟨title, author⟩, date⟩ := texts
    refine law.render fun text ok => ?_
    cases ok
    exact law.document obeys (law.getD title) (law.getD author) (law.getD date)
      (children (Tree.walksChildren_of_document kind))
  | heading =>
    rw [kind] at texts
    refine law.render fun text ok => ?_
    have title := Node.of_written texts ((Fields.isOk_heading _ _).symm.trans (Node.isOk ok))
    exact law.heading (law.getD title) (children (Tree.walksChildren_of_heading kind)) ok
  | itemList =>
    rw [kind] at texts
    refine law.render fun text ok => ?_
    have own := Node.of_written texts ((Fields.isOk_itemList _ _).symm.trans (Node.isOk ok))
    refine law.itemList (List.forall_mem_map.2 fun entry mem => ?_) ok
    have nested := entries (Tree.walksEntries_of_itemList kind) entry mem
    exact ⟨own entry.text (List.mem_map_of_mem mem), nested⟩
  | block =>
    rw [kind] at texts
    refine law.render fun text ok => ?_
    have written := (Fields.isOk_block _ _).symm.trans (Node.isOk ok)
    refine law.block (fun apart => ?_) (fun admonition => ?_) ok
    · have own := Fields.content_of_blockTexts texts apart written
      cases brought : tree.fields.ownContent? tree.children.isEmpty with
      | some content => exact own content (Option.mem_toList.2 brought)
      | none => exact children (Tree.walksChildren_of_block_of_none kind brought)
    · have given := Fields.style_of_blockTexts texts admonition
      cases look : tree.fields.style with
      | some label => exact given label (Option.mem_toList.2 look)
      | none => exact upperCase_note ▸ law.fixed "NOTE" (by decide)
  | inline =>
    rw [kind] at texts
    refine law.render fun text ok => ?_
    have written := (Fields.isOk_inline _ _).symm.trans (Node.isOk ok)
    obtain ⟨own, targets⟩ := Fields.of_inlineTexts texts written
    refine law.inline obeys ?_ (fun anchor named => law.getD (targets anchor named)) ok
    cases brought : tree.fields.text with
    | some text => exact own text (Option.mem_toList.2 brought)
    | none => exact children (Tree.walksChildren_of_inline_of_none kind brought)

/-- A conversion obeys a law if the texts of the nodes that it visits do. -/
theorem convert (law : TemplateLaw P Name) (obeys : style.Obeys P Name) {tree : Tree}
    (texts : ∀ node, tree.Visits node → ∀ text ∈ node.ownTexts style, P text) :
    P (tree.convert style).output := by
  induction tree using Tree.visitInduction with
  | step tree ih =>
    have visited : ∀ child ∈ tree.visitedChildren, P (child.convert style).output :=
      fun child mem => ih child mem fun node visits => texts node (.child mem visits)
    rw [Tree.convert_eq]
    refine law.ownRendering obeys (texts tree .self) (fun walks => ?_) (fun walks entry mem => ?_)
    · refine law.siblingText fun child within => visited child ?_
      exact Tree.mem_visitedChildren_of_mem_children walks within
    · refine law.siblingText fun child within => visited child ?_
      exact Tree.mem_visitedChildren_of_mem_entries walks mem within

end TemplateLaw

namespace TextLaw

variable {P Name : String → Prop} {style : Style}

/-- What siblings read obeys a law of texts if what each of them converts to does. -/
lemma siblingText (law : TextLaw P Name) {siblings : List Tree}
    (holds : ∀ sibling ∈ siblings, P (sibling.convert style).output) :
    P (siblingText style siblings) :=
  law.toTemplateLaw.siblingText holds

/-- A conversion obeys a law of texts if the texts of the nodes that it visits do. -/
theorem convert (law : TextLaw P Name) (obeys : style.Obeys P Name) {tree : Tree}
    (texts : ∀ node, tree.Visits node → ∀ text ∈ node.ownTexts style, P text) :
    P (tree.convert style).output :=
  law.toTemplateLaw.convert obeys texts

end TextLaw

end Typeset
