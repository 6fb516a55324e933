import LinkEmbed.Html.Table

/-!
# Framesets and the end of a page

The rules behind the body, for framesets, and the choice of the rules that hold for a token.
-/

namespace LinkEmbed.Html.Builder

/-- Behind the body. Whatever is no white space goes on in the body. -/
def inAfterBody (b : Builder) (t : Token) : Step :=
  match t with
  | .char c => if isFiller c then b.inBody t else b.retry .inBody
  | .comment text => (b.commentAt text (.lastOf (b.opened.getLast?.getD 0))).done
  | .startTag "html" attributes _ => (b.mergeRoot attributes).done
  | .endTag "html" => (if b.context.isSome then b else { b with mode := .afterAfterBody }).done
  | .endOfText => b.done
  | .doctype => b.done
  | _ => b.retry .inBody

/-- Behind the page. -/
def inAfterAfterBody (b : Builder) (t : Token) : Step :=
  match t with
  | .char c => if isFiller c then b.inBody t else b.retry .inBody
  | .comment text => (b.commentAt text (.lastOf 0)).done
  | .startTag "html" attributes _ => (b.mergeRoot attributes).done
  | .endOfText => b.done
  | .doctype => b.done
  | _ => b.retry .inBody

/-- In a frameset. -/
def inFrameset (b : Builder) (t : Token) : Step :=
  match t with
  | .char c => (if isFiller c then b.insertChar c else b).done
  | .comment text => (b.insertComment text).done
  | .startTag "html" attributes _ => (b.mergeRoot attributes).done
  | .startTag "frameset" attributes _ => (b.insertHtml "frameset" attributes).done
  | .startTag "frame" attributes _ => (b.insertVoid "frame" attributes).done
  | .startTag "noframes" attributes _ => (b.openInHead "noframes" attributes).done
  | .endTag "frameset" =>
    -- The root stays open.
    if b.opened.length = 1 then b.done
    else
      let b := b.pop
      (if b.context.isNone && !b.currentIn ["frameset"] then { b with mode := .afterFrameset } else b).done
  | _ => b.done

/-- Behind a frameset. -/
def inAfterFrameset (b : Builder) (t : Token) : Step :=
  match t with
  | .char c => (if isFiller c then b.insertChar c else b).done
  | .comment text => (b.insertComment text).done
  | .startTag "html" attributes _ => (b.mergeRoot attributes).done
  | .startTag "noframes" attributes _ => (b.openInHead "noframes" attributes).done
  | .endTag "html" => { b with mode := .afterAfterFrameset }.done
  | _ => b.done

/-- Behind a page of framesets. -/
def inAfterAfterFrameset (b : Builder) (t : Token) : Step :=
  match t with
  | .char c => (if isFiller c then b.charInBody c else b).done
  | .comment text => (b.commentAt text (.lastOf 0)).done
  | .startTag "html" attributes _ => (b.mergeRoot attributes).done
  | .startTag "noframes" attributes _ => (b.openInHead "noframes" attributes).done
  | _ => b.done

/-- The rules of a part of a page. -/
def inMode (b : Builder) (t : Token) : Step :=
  match b.mode with
  | .initial => b.inInitial t
  | .beforeHtml => b.inBeforeHtml t
  | .beforeHead => b.inBeforeHead t
  | .inHead => b.inHead t
  | .afterHead => b.inAfterHead t
  | .inBody => b.inBody t
  | .inText => b.inText t
  | .inTable => b.inTable t
  | .inTableText => b.inTableText t
  | .inCaption => b.inCaption t
  | .inColumns => b.inColumns t
  | .inTableBody => b.inTableBody t
  | .inRow => b.inRow t
  | .inCell => b.inCell t
  | .inSelect => b.inSelect t
  | .inSelectInTable => b.inSelectInTable t
  | .inTemplate => b.inTemplate t
  | .afterBody => b.inAfterBody t
  | .inFrameset => b.inFrameset t
  | .afterFrameset => b.inAfterFrameset t
  | .afterAfterBody => b.inAfterAfterBody t
  | .afterAfterFrameset => b.inAfterAfterFrameset t

/-- Look at a token once. -/
def step (b : Builder) (t : Token) : Step :=
  if b.isForeign t then
    match b.inForeign t with
    | (b, true) => b.inMode t
    | (b, false) => b.done
  else b.inMode t

/-- Look at a token until it is dealt with, at most a number of times. -/
def stepAll : Nat → Builder → Token → Builder
  | 0, b, _ => b
  | more + 1, b, t =>
    match b.step t with
    | (b, true) => stepAll more b t
    | (b, false) => b

/-- Deal with a token. A line feed directly behind some start tags does not count. Every part of a page
leads to another at most once for a token, and the end of the text closes every template. -/
def feed (b : Builder) (t : Token) : Builder :=
  let skip := b.skipLineFeed && t == .char '\n'
  let b := { b with skipLineFeed := false }
  if skip then b else stepAll (2 * b.opened.length + 32) b t

end LinkEmbed.Html.Builder
