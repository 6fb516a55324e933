import LinkEmbed.Html.Body

/-!
# Tables and selections

The rules inside tables, which put before the table what may not stand in it, and inside lists of options.
-/

namespace LinkEmbed.Html.Builder

/-- Deal with a token as in the body; what may not stand in a table goes before it. -/
def fostered (b : Builder) (t : Token) : Step :=
  let (b, again) := { b with fostering := true }.inBody t
  ({ b with fostering := false }, again)

/-- Close elements inside a table up to it. -/
def clearToTable (b : Builder) : Builder := b.popTo endsTableScope

/-- Close elements inside a part of a table up to it. -/
def clearToBody (b : Builder) : Builder :=
  b.popTo fun n => n.vocabulary == .html && ["tbody", "tfoot", "thead", "template", "html"].contains n.name

/-- Close elements inside a row up to it. -/
def clearToRow (b : Builder) : Builder :=
  b.popTo fun n => n.vocabulary == .html && ["tr", "template", "html"].contains n.name

/-- Whether an element of a table is open in it. -/
def inTableScope (b : Builder) (name : String) : Bool := b.inScope endsTableScope name

/-- Parts of a table. -/
def sectionNames : List String := ["tbody", "tfoot", "thead"]

/-- End tags that count for nothing directly in a table. -/
def strayEnds : List String :=
  ["body", "caption", "col", "colgroup", "html", "tbody", "td", "tfoot", "th", "thead", "tr"]

/-- A start tag in a table. -/
def startInTable (b : Builder) (name : String) (attributes : List (String × String)) (selfClosing : Bool) :
    Step :=
  if sectionNames.contains name then
    { b.clearToTable.insertHtml name attributes with mode := .inTableBody }.done
  else
    match name with
    | "caption" => { b.clearToTable.mark.insertHtml name attributes with mode := .inCaption }.done
    | "colgroup" => { b.clearToTable.insertHtml name attributes with mode := .inColumns }.done
    -- What needs a part of a table around it gets one.
    | "col" => (b.clearToTable.insertHtml "colgroup" []).retry .inColumns
    | "td" | "th" | "tr" => (b.clearToTable.insertHtml "tbody" []).retry .inTableBody
    -- A table ends the one it would stand in.
    | "table" => if b.inTableScope "table" then (b.popName "table").resetMode.again else b.done
    | "style" | "script" | "template" => (b.openInHead name attributes).done
    | "input" =>
      if isHidden attributes then (b.insertVoid name attributes).done
      else b.fostered (.startTag name attributes selfClosing)
    | "form" =>
      if b.form.isSome || b.isOpen "template" then b.done
      else
        let b := b.insertHtml name attributes
        { b with form := b.opened.head? }.pop.done
    | _ => b.fostered (.startTag name attributes selfClosing)

/-- In a table. Characters are kept until something else follows. -/
def inTable (b : Builder) (t : Token) : Step :=
  match t with
  | .char _ =>
    -- Text is held back until it is known whether it is more than white space.
    if b.currentIn ["table", "tbody", "tfoot", "thead", "tr"] then
      { b with returnMode := b.mode, tableText := [] }.retry .inTableText
    else b.fostered t
  | .comment text => (b.insertComment text).done
  | .startTag name attributes selfClosing => b.startInTable name attributes selfClosing
  | .endTag name =>
    if name = "table" then
      (if b.inTableScope "table" then (b.popName "table").resetMode else b).done
    else if strayEnds.contains name then b.done
    else if name = "template" then b.closeTemplate.done
    else b.fostered t
  | .endOfText => b.inBody t
  | .doctype => b.done

/-- In text in a table. White space may stand there, other text goes before the table. -/
def inTableText (b : Builder) (t : Token) : Step :=
  match t with
  | .char c => (if c = '\x00' then b else { b with tableText := c :: b.tableText }).done
  | .doctype => b.done
  | _ =>
    let text := b.tableText.reverse
    let b := { b with tableText := [] }
    let b :=
      if text.all isFiller then text.foldl insertChar b
      else { text.foldl charInBody { b with fostering := true } with fostering := false }
    b.retry b.returnMode

/-- Start tags of what stands in a table outside captions and cells. -/
def tableStarts : List String :=
  ["caption", "col", "colgroup", "tbody", "td", "tfoot", "th", "thead", "tr"]

/-- In a caption. -/
def inCaption (b : Builder) (t : Token) : Step :=
  let close := ((b.closeImplied "").popName "caption").clearFormatting
  let isInScope := b.inTableScope "caption"
  match t with
  | .startTag name _ _ =>
    if tableStarts.contains name then if isInScope then close.retry .inTable else b.done
    else b.inBody t
  | .endTag "caption" => (if isInScope then { close with mode := .inTable } else b).done
  | .endTag "table" => if isInScope then close.retry .inTable else b.done
  | .endTag name => if strayEnds.contains name then b.done else b.inBody t
  | t => b.inBody t

/-- In a group of columns. -/
def inColumns (b : Builder) (t : Token) : Step :=
  let leave := if b.currentIn ["colgroup"] then b.pop.retry .inTable else b.done
  match t with
  | .char c => if isFiller c then (b.insertChar c).done else leave
  | .comment text => (b.insertComment text).done
  | .startTag "html" attributes _ => (b.mergeRoot attributes).done
  | .startTag "col" attributes _ => (b.insertVoid "col" attributes).done
  | .startTag "template" attributes _ => (b.openInHead "template" attributes).done
  | .endTag "colgroup" =>
    (if b.currentIn ["colgroup"] then { b.pop with mode := .inTable } else b).done
  | .endTag "col" => b.done
  | .endTag "template" => b.closeTemplate.done
  | .endOfText => b.inBody t
  | .doctype => b.done
  | _ => leave

/-- In a part of a table. -/
def inTableBody (b : Builder) (t : Token) : Step :=
  let leave :=
    if b.scopeHolds endsTableScope fun n => n.vocabulary == .html && ["table", "tbody", "tfoot"].contains n.name
    then b.clearToBody.pop.retry .inTable else b.done
  match t with
  | .startTag name attributes _ =>
    if name = "tr" then { b.clearToBody.insertHtml name attributes with mode := .inRow }.done
    -- A cell gets a row around it.
    else if name = "th" ∨ name = "td" then (b.clearToBody.insertHtml "tr" []).retry .inRow
    else if tableStarts.contains name then leave
    else b.inTable t
  | .endTag name =>
    if sectionNames.contains name then
      (if b.inTableScope name then { b.clearToBody.pop with mode := .inTable } else b).done
    else if name = "table" then leave
    else if strayEnds.contains name then b.done
    else b.inTable t
  | t => b.inTable t

/-- In a row. -/
def inRow (b : Builder) (t : Token) : Step :=
  let leave := if b.inTableScope "tr" then b.clearToRow.pop.retry .inTableBody else b.done
  match t with
  | .startTag name attributes _ =>
    if name = "th" ∨ name = "td" then
      { (b.clearToRow.insertHtml name attributes).mark with mode := .inCell }.done
    else if tableStarts.contains name then leave
    else b.inTable t
  | .endTag name =>
    if name = "tr" then
      (if b.inTableScope "tr" then { b.clearToRow.pop with mode := .inTableBody } else b).done
    else if sectionNames.contains name then if b.inTableScope name then leave else b.done
    else if name = "table" then leave
    else if strayEnds.contains name then b.done
    else b.inTable t
  | t => b.inTable t

/-- Whether an element is a cell. -/
def isCell (n : TagName) : Bool := n == .html "td" || n == .html "th"

/-- In a cell. -/
def inCell (b : Builder) (t : Token) : Step :=
  -- Ends the cell, whatever is still open in it.
  let close := ((b.closeImplied "").popThrough isCell).clearFormatting
  match t with
  | .startTag name _ _ =>
    if tableStarts.contains name then
      if b.scopeHolds endsTableScope isCell then close.retry .inRow else b.done
    else b.inBody t
  | .endTag name =>
    if name = "td" ∨ name = "th" then
      if b.inTableScope name then
        { ((b.closeImplied "").popName name).clearFormatting with mode := .inRow }.done
      else b.done
    else if name = "table" ∨ name = "tr" ∨ sectionNames.contains name = true then
      if b.inTableScope name then close.retry .inRow else b.done
    else if strayEnds.contains name then b.done
    else b.inBody t
  | t => b.inBody t

/-- Close the option opened last. -/
def closeOption (b : Builder) : Builder := if b.currentIn ["option"] then b.pop else b

/-- Close the group of options opened last. -/
def closeGroup (b : Builder) : Builder := if b.currentIn ["optgroup"] then b.pop else b

/-- Close a selection, if one is open. -/
def closeSelect (b : Builder) : Builder :=
  if b.inScope endsSelectScope "select" then (b.popName "select").resetMode else b

/-- In a selection. -/
def inSelect (b : Builder) (t : Token) : Step :=
  match t with
  | .char c => (if c = '\x00' then b else b.insertChar c).done
  | .comment text => (b.insertComment text).done
  | .startTag name attributes _ =>
    match name with
    | "html" => (b.mergeRoot attributes).done
    | "option" => (b.closeOption.insertHtml name attributes).done
    | "optgroup" => (b.closeOption.closeGroup.insertHtml name attributes).done
    | "hr" => (b.closeOption.closeGroup.insertVoid name attributes).done
    | "select" => b.closeSelect.done
    -- What a user may type into does not stand in a choice, and ends it.
    | "input" | "keygen" | "textarea" =>
      if b.inScope endsSelectScope "select" then b.closeSelect.again else b.done
    | "script" | "template" => (b.openInHead name attributes).done
    | _ => b.done
  | .endTag name =>
    match name with
    | "optgroup" =>
      match b.opened with
      | _ :: i :: _ =>
        (if b.nameOf i = .html "optgroup" then b.closeOption.closeGroup else b.closeGroup).done
      | _ => b.closeGroup.done
    | "option" => b.closeOption.done
    | "select" => b.closeSelect.done
    | "template" => b.closeTemplate.done
    | _ => b.done
  | .endOfText => b.inBody t
  | .doctype => b.done

/-- In a selection in a table. The parts of the table end the selection. -/
def inSelectInTable (b : Builder) (t : Token) : Step :=
  let parts := ["caption", "table", "tbody", "tfoot", "thead", "tr", "td", "th"]
  match t with
  | .startTag name _ _ =>
    if parts.contains name then (b.popName "select").resetMode.again else b.inSelect t
  | .endTag name =>
    if parts.contains name then
      if b.inTableScope name then (b.popName "select").resetMode.again else b.done
    else b.inSelect t
  | t => b.inSelect t

end LinkEmbed.Html.Builder
