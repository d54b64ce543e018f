import PcpClient.SchemaValidator

/-! The schemas of the two protocol versions that the library reads messages with. -/
namespace PcpProtocol
open PcpSchema

def envelopeSchemaName : String := "envelope_schema"
def errorMsgType : String := "http://puppetlabs.com/error_message"

namespace V1

def associateRespType : String := "http://puppetlabs.com/associate_response"
def ttlExpiredType : String := "http://puppetlabs.com/ttl_expired"
def debugSchemaName : String := "debug_schema"
def debugItemSchemaName : String := "debug_item_schema"

def envelopeSchema : Schema :=
  .build envelopeSchemaName
    [("id", .string, true), ("message_type", .string, true), ("expires", .string, true),
      ("targets", .array, true), ("sender", .string, true), ("destination_report", .bool, false),
      ("in-reply-to", .string, false)]

def associateResponseSchema : Schema :=
  .build associateRespType
    [("id", .string, true), ("success", .bool, true), ("reason", .string, false)]

def errorMessageSchema : Schema :=
  .build errorMsgType [("description", .string, true), ("id", .string, false)]

def ttlExpiredSchema : Schema := .build ttlExpiredType [("id", .string, true)]

def debugSchema : Schema := .build debugSchemaName [("hops", .array, true)]

def debugItemSchema : Schema :=
  .build debugItemSchemaName
    [("server", .string, true), ("time", .string, true), ("stage", .string, false)]

end V1

namespace V2

def envelopeSchema : Schema :=
  .build envelopeSchemaName
    [("id", .string, true), ("message_type", .string, true), ("target", .string, false),
      ("sender", .string, false), ("in_reply_to", .string, false), ("data", .any, false)]

def errorMessageSchema : Schema := { name := errorMsgType, type := .string }

end V2

end PcpProtocol
