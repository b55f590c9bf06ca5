import WikiMarkup.Wiki.Backend
/-!
# Converting a document

A Markdown document is written as events, and these are rendered in wiki markup. How Markdown is
read is not said here: conversion works with any reader that gives the events of a document.
-/

namespace WikiMarkup

/-- The wiki markup of a Markdown document, whose events are found by a reader of Markdown with
tables, strikethrough and task lists. -/
def convert (parse : Text → List Event) (options : Options) (markdown : Text) :
    Except RenderError Text :=
  (Wiki.backend options).render (parse markdown)

end WikiMarkup
