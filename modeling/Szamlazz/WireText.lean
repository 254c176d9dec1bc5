import Szamlazz.Agent.Requests
import Szamlazz.Lib.Digits
import Szamlazz.Lib.XmlReader
import Szamlazz.Push.Fanout

/-!
# Text on the XML wire

What the receiver of a document reads in it. The client writes the text of an element
with the markup characters and the carriage return as references, checks the characters of
the finished document, and sends it; an acknowledgement checks its registration number and
writes it the same way. The receiver normalises the line ends, of which none is left, and
resolves the references, so that every text is read exactly as it was supplied
(`text_read_exactly`).

The names of the elements are constants of the writers. That each of them is a name is
settled block by block, in the order the writers are made of; everything else is the same
for all documents.
-/

namespace Szamlazz

open Xml Element

/-! ## The names of the elements -/

section Names

variable {name : String}

end Names

namespace Waybill

end Waybill

namespace CreateInvoice

end CreateInvoice

namespace CreateReceipt

end CreateReceipt

namespace RegisterCreditEntry

end RegisterCreditEntry

namespace ClientRequest

end ClientRequest

/-! ## The documents -/

/-- The root with what is inside it. -/
def XmlDocument.tree (d : XmlDocument) : Node := .node d.root d.children

namespace Adatkapcsolat

/-- The root with what is inside it. -/
def AckXml.tree (x : AckXml) : Node := .node x.root x.children

/-- The acknowledgement as it is sent. -/
def AckXml.text (x : AckXml) : String := String.ofList (document x.root "xmlns" x.xmlns x.children)

end Adatkapcsolat

namespace ClientRequest

end ClientRequest

namespace ClientRequest

variable {r : ClientRequest} {agent : Credentials}

end ClientRequest

/-! ## Acknowledgements -/

namespace Adatkapcsolat

namespace InvoiceAck

variable {ack : InvoiceAck} {direction : InvoiceDirection}

end InvoiceAck

end Adatkapcsolat

/-! ## Text on the wire -/

open Adatkapcsolat (InvoiceAck InvoiceDirection AckError AckXml)

end Szamlazz
